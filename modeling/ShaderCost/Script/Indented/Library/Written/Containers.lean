import ShaderCost.Text.Basic

/-!
Parts of the library that are told in the language itself: containers, values one after the other,
and routines of routines.
-/

namespace ShaderCost.Script.Indented.Written

/-! Containers. -/

def containersOrderedDict : List String := [
  "class OrderedDict(dict):",
  "    def move_to_end(self, key, last=True):",
  "        value = self.pop(key)",
  "        if last:",
  "            self[key] = value",
  "        else:",
  "            others = list(self.items())",
  "            self.clear()",
  "            self[key] = value",
  "            for key, value in others:",
  "                self[key] = value",
  "    def popitem(self, last=True):",
  "        if not self:",
  "            raise KeyError('dictionary is empty')",
  "        key = list(self)[-1 if last else 0]",
  "        return key, self.pop(key)",
  "    def copy(self):",
  "        return self.__class__(self)",
  "    def __repr__(self):",
  "        return 'OrderedDict(%s)' % (dict(self) if self else '')"]

def containersDefaultdict : List String := [
  "class defaultdict(dict):",
  "    def __init__(self, default_factory=None, *args, **named):",
  "        if default_factory is not None and not callable(default_factory):",
  "            raise TypeError('first argument must be callable or None')",
  "        self.default_factory = default_factory",
  "        dict.__init__(self, *args, **named)",
  "    def __missing__(self, key):",
  "        if self.default_factory is None:",
  "            raise KeyError(key)",
  "        value = self.default_factory()",
  "        self[key] = value",
  "        return value",
  "    def copy(self):",
  "        return defaultdict(self.default_factory, self)",
  "    def __repr__(self):",
  "        return 'defaultdict(%r, %r)' % (self.default_factory, dict(self))"]

def containersCounter : List String := [
  "class Counter(dict):",
  "    def __init__(self, values=None, **named):",
  "        dict.__init__(self)",
  "        self.update(values, **named)",
  "    def __missing__(self, key):",
  "        return 0",
  "    def update(self, values=None, **named):",
  "        if values is not None:",
  "            if hasattr(values, 'items'):",
  "                for key, count in values.items():",
  "                    self[key] = count + self.get(key, 0)",
  "            else:",
  "                for key in values:",
  "                    self[key] = self.get(key, 0) + 1",
  "        if named:",
  "            self.update(named)",
  "    def subtract(self, values=None, **named):",
  "        if values is not None:",
  "            if hasattr(values, 'items'):",
  "                for key, count in values.items():",
  "                    self[key] = self.get(key, 0) - count",
  "            else:",
  "                for key in values:",
  "                    self[key] = self.get(key, 0) - 1",
  "        if named:",
  "            self.subtract(named)",
  "    def most_common(self, n=None):",
  "        pairs = sorted(self.items(), key=lambda pair: pair[1], reverse=True)",
  "        return pairs if n is None else pairs[:n]",
  "    def elements(self):",
  "        for key, count in self.items():",
  "            for _ in range(count):",
  "                yield key",
  "    def total(self):",
  "        return sum(self.values())"]

def containersCopy : List String := [
  "    def copy(self):",
  "        return Counter(self)",
  "    def __delitem__(self, key):",
  "        if key in self:",
  "            dict.__delitem__(self, key)",
  "    def _joined(self, other, work):",
  "        result = Counter()",
  "        for key in list(self) + [key for key in other if key not in self]:",
  "            count = work(self[key], other[key])",
  "            if count > 0:",
  "                result[key] = count",
  "        return result",
  "    def __add__(self, other):",
  "        return self._joined(other, lambda a, b: a + b)",
  "    def __sub__(self, other):",
  "        return self._joined(other, lambda a, b: a - b)",
  "    def __or__(self, other):",
  "        return self._joined(other, max)",
  "    def __and__(self, other):",
  "        return self._joined(other, min)",
  "    def __repr__(self):",
  "        return 'Counter(%s)' % (dict(self.most_common()) if self else '')"]

def containersDeque : List String := [
  "class deque:",
  "    def __init__(self, values=(), maxlen=None):",
  "        self._items = []",
  "        self.maxlen = maxlen",
  "        self.extend(values)",
  "    def _trim(self, front):",
  "        if self.maxlen is not None and len(self._items) > self.maxlen:",
  "            self._items.pop(0 if front else -1)",
  "    def append(self, value):",
  "        self._items.append(value)",
  "        self._trim(True)",
  "    def appendleft(self, value):",
  "        self._items.insert(0, value)",
  "        self._trim(False)",
  "    def extend(self, values):",
  "        for value in list(values):",
  "            self.append(value)",
  "    def extendleft(self, values):",
  "        for value in list(values):",
  "            self.appendleft(value)",
  "    def pop(self):",
  "        if not self._items:",
  "            raise IndexError('pop from an empty deque')",
  "        return self._items.pop()",
  "    def popleft(self):",
  "        if not self._items:",
  "            raise IndexError('pop from an empty deque')",
  "        return self._items.pop(0)",
  "    def clear(self):",
  "        self._items.clear()",
  "    def copy(self):",
  "        return deque(self._items, self.maxlen)",
  "    def rotate(self, n=1):",
  "        if self._items:",
  "            n %= len(self._items)",
  "            self._items = self._items[-n:] + self._items[:-n] if n else self._items"]

def containersCount : List String := [
  "    def count(self, value):",
  "        return self._items.count(value)",
  "    def index(self, value, *bounds):",
  "        return self._items.index(value, *bounds)",
  "    def insert(self, place, value):",
  "        self._items.insert(place, value)",
  "    def remove(self, value):",
  "        self._items.remove(value)",
  "    def reverse(self):",
  "        self._items.reverse()",
  "    def __len__(self):",
  "        return len(self._items)",
  "    def __iter__(self):",
  "        return iter(self._items)",
  "    def __reversed__(self):",
  "        return reversed(self._items)",
  "    def __contains__(self, value):",
  "        return value in self._items",
  "    def __getitem__(self, place):",
  "        if not -len(self._items) <= place < len(self._items):",
  "            raise IndexError('deque index out of range')",
  "        return self._items[place]",
  "    def __setitem__(self, place, value):",
  "        self._items[place] = value",
  "    def __delitem__(self, place):",
  "        del self._items[place]",
  "    def __eq__(self, other):",
  "        return isinstance(other, deque) and self._items == other._items",
  "    def __hash__(self):",
  "        raise TypeError(\"unhashable type: 'collections.deque'\")",
  "    def __add__(self, other):",
  "        return deque(self._items + list(other), self.maxlen)",
  "    def __iadd__(self, other):",
  "        self.extend(other)",
  "        return self",
  "    def __bool__(self):",
  "        return bool(self._items)",
  "    def __repr__(self):",
  "        more = '' if self.maxlen is None else ', maxlen=%d' % self.maxlen",
  "        return 'deque(%r%s)' % (self._items, more)"]

def containersField : List String := [
  "class _Field:",
  "    def __init__(self, place):",
  "        self.place = place",
  "    def __get__(self, object, type=None):",
  "        if object is None:",
  "            return self",
  "        return tuple(object)[self.place]",
  "    def __set__(self, object, value):",
  "        raise AttributeError(\"can't set attribute\")",
  "class _Record(tuple):",
  "    _fields = ()",
  "    _field_defaults = dict()",
  "    def __new__(cls, *args, **named):",
  "        names = cls._fields",
  "        if len(args) > len(names):",
  "            raise TypeError('%s.__new__() takes %s positional arguments but %d were given' % (",
  "                cls.__name__, _counted(cls), len(args) + 1))",
  "        values = list(args)",
  "        missing = []",
  "        for name in names[len(args):]:",
  "            if name in named:",
  "                values.append(named.pop(name))",
  "            elif name in cls._field_defaults:",
  "                values.append(cls._field_defaults[name])",
  "            else:",
  "                missing.append(name)",
  "        if missing:",
  "            words = [repr(name) for name in missing]",
  "            text = words[0] if len(words) == 1 else (",
  "                ', '.join(words[:-1]) + (',' if len(words) > 2 else '') + ' and ' + words[-1])",
  "            raise TypeError('%s.__new__() missing %d required positional argument%s: %s' % (",
  "                cls.__name__, len(words), '' if len(words) == 1 else 's', text))",
  "        if named:",
  "            name = list(named)[0]",
  "            if name in names:",
  "                raise TypeError(\"%s.__new__() got multiple values for argument '%s'\" % ("]

def containersMake : List String := [
  "                    cls.__name__, name))",
  "            raise TypeError(\"%s.__new__() got an unexpected keyword argument '%s'\" % (",
  "                cls.__name__, name))",
  "        return tuple.__new__(cls, values)",
  "    @classmethod",
  "    def _make(cls, values):",
  "        return cls(*values)",
  "    def _asdict(self):",
  "        return dict(zip(self._fields, self))",
  "    def _replace(self, **named):",
  "        return self.__class__(**dict(self._asdict(), **named))",
  "    def __repr__(self):",
  "        pairs = ['%s=%r' % pair for pair in zip(self._fields, self)]",
  "        return '%s(%s)' % (self.__class__.__name__, ', '.join(pairs))"]

def containersCounted : List String := [
  "def _counted(cls):",
  "    most = len(cls._fields) + 1",
  "    least = most - len(cls._field_defaults)",
  "    return str(most) if least == most else 'from %d to %d' % (least, most)",
  "def _record(name, fields, defaults, members, base=_Record):",
  "    members = dict(members)",
  "    members['_fields'] = tuple(fields)",
  "    members['__match_args__'] = tuple(fields)",
  "    members['_field_defaults'] = defaults",
  "    for place, field in enumerate(fields):",
  "        members[field] = _Field(place)",
  "    return type(name, (base,), members)"]

def containersNamedtuple : List String := [
  "def namedtuple(typename, field_names, *, rename=False, defaults=None, module=None):",
  "    if isinstance(field_names, str):",
  "        field_names = field_names.replace(',', ' ').split()",
  "    fields = list(field_names)",
  "    if rename:",
  "        for place, name in enumerate(fields):",
  "            if not name.isidentifier() or name.startswith('_') or name in fields[:place]:",
  "                fields[place] = '_%d' % place",
  "    for name in [typename] + fields:",
  "        if not name.isidentifier():",
  "            raise ValueError('Type names and field names must be valid identifiers: %r' % name)",
  "    seen = set()",
  "    for name in fields:",
  "        if name.startswith('_') and not rename:",
  "            raise ValueError('Field names cannot start with an underscore: %r' % name)",
  "        if name in seen:",
  "            raise ValueError('Encountered duplicate field name: %r' % name)",
  "        seen.add(name)",
  "    defaults = list(defaults or ())",
  "    if len(defaults) > len(fields):",
  "        raise TypeError('Got more default values than field names')",
  "    usual = dict(zip(fields[len(fields) - len(defaults):], defaults))",
  "    return _record(typename, fields, usual, dict())"]

def containersChainMap : List String := [
  "class ChainMap:",
  "    def __init__(self, *maps):",
  "        self.maps = list(maps) or [dict()]",
  "    def __getitem__(self, key):",
  "        for table in self.maps:",
  "            if key in table:",
  "                return table[key]",
  "        raise KeyError(key)",
  "    def __setitem__(self, key, value):",
  "        self.maps[0][key] = value",
  "    def __delitem__(self, key):",
  "        del self.maps[0][key]",
  "    def __contains__(self, key):",
  "        return any(key in table for table in self.maps)",
  "    def __iter__(self):",
  "        names = dict()",
  "        for table in reversed(self.maps):",
  "            names.update(dict.fromkeys(table))",
  "        return iter(names)",
  "    def __len__(self):",
  "        return len(list(iter(self)))",
  "    def get(self, key, default=None):",
  "        return self[key] if key in self else default",
  "    def keys(self):",
  "        return list(self)",
  "    def values(self):",
  "        return [self[key] for key in self]",
  "    def items(self):",
  "        return [(key, self[key]) for key in self]",
  "    def new_child(self, table=None):",
  "        return ChainMap(dict() if table is None else table, *self.maps)",
  "    def __repr__(self):",
  "        return 'ChainMap(%s)' % ', '.join(map(repr, self.maps))"]

def containersUserDict : List String := [
  "class UserDict(dict):",
  "    @property",
  "    def data(self):",
  "        return self",
  "class UserList(list):",
  "    pass",
  "class UserString(str):",
  "    pass"]

def containers : List String :=
  containersOrderedDict ++ containersDefaultdict ++ containersCounter ++ containersCopy ++
    containersDeque ++ containersCount ++ containersField ++ containersMake ++
    containersCounted ++ containersNamedtuple ++ containersChainMap ++ containersUserDict

/-! Values one after the other. -/

def iterationsCount : List String := [
  "def count(start=0, step=1):",
  "    while True:",
  "        yield start",
  "        start += step",
  "def cycle(values):",
  "    kept = []",
  "    for value in values:",
  "        yield value",
  "        kept.append(value)",
  "    while kept:",
  "        yield from kept",
  "def repeat(value, times=None):",
  "    if times is None:",
  "        while True:",
  "            yield value",
  "    for _ in range(times):",
  "        yield value"]

def iterationsChain : List String := [
  "class chain:",
  "    def __init__(self, *sources):",
  "        self._values = chain._of(sources)",
  "    @staticmethod",
  "    def _of(sources):",
  "        for source in sources:",
  "            yield from source",
  "    @classmethod",
  "    def from_iterable(cls, sources):",
  "        made = cls()",
  "        made._values = chain._of(sources)",
  "        return made",
  "    def __iter__(self):",
  "        return self",
  "    def __next__(self):",
  "        return next(self._values)"]

def iterationsAccumulate : List String := [
  "def accumulate(values, func=None, *, initial=None):",
  "    values = iter(values)",
  "    total = initial",
  "    if initial is None:",
  "        try:",
  "            total = next(values)",
  "        except StopIteration:",
  "            return",
  "    yield total",
  "    for value in values:",
  "        total = total + value if func is None else func(total, value)",
  "        yield total"]

def iterationsBatched : List String := [
  "def batched(values, n):",
  "    values = iter(values)",
  "    while batch := tuple(islice(values, n)):",
  "        yield batch",
  "def compress(data, selectors):",
  "    return (value for value, chosen in zip(data, selectors) if chosen)",
  "def dropwhile(test, values):",
  "    values = iter(values)",
  "    for value in values:",
  "        if not test(value):",
  "            yield value",
  "            break",
  "    yield from values"]

def iterationsTakewhile : List String := [
  "def takewhile(test, values):",
  "    for value in values:",
  "        if not test(value):",
  "            break",
  "        yield value",
  "def filterfalse(test, values):",
  "    return (value for value in values if not (test(value) if test else value))",
  "def groupby(values, key=None):",
  "    groups = []",
  "    last = None",
  "    for value in values:",
  "        mark = value if key is None else key(value)",
  "        if not groups or mark != last:",
  "            if groups:",
  "                yield last, iter(groups)",
  "            groups = []",
  "            last = mark",
  "        groups.append(value)",
  "    if groups:",
  "        yield last, iter(groups)"]

def iterationsIslice : List String := [
  "def islice(values, *bounds):",
  "    bounds = slice(*bounds)",
  "    start = bounds.start or 0",
  "    step = bounds.step or 1",
  "    stop = bounds.stop",
  "    values = iter(values)",
  "    place = 0",
  "    wanted = start",
  "    while stop is None or wanted < stop:",
  "        try:",
  "            value = next(values)",
  "        except StopIteration:",
  "            return",
  "        if place == wanted:",
  "            yield value",
  "            wanted += step",
  "        place += 1"]

def iterationsPairwise : List String := [
  "def pairwise(values):",
  "    values = iter(values)",
  "    try:",
  "        last = next(values)",
  "    except StopIteration:",
  "        return",
  "    for value in values:",
  "        yield last, value",
  "        last = value",
  "def starmap(func, values):",
  "    return (func(*args) for args in values)",
  "def tee(values, n=2):",
  "    kept = list(values)",
  "    return tuple(iter(list(kept)) for _ in range(n))"]

def iterationsZipLongest : List String := [
  "def zip_longest(*sources, fillvalue=None):",
  "    lists = [list(source) for source in sources]",
  "    for place in range(max(map(len, lists), default=0)):",
  "        yield tuple(items[place] if place < len(items) else fillvalue for items in lists)",
  "def product(*sources, repeat=1):",
  "    pools = [tuple(source) for source in sources] * repeat",
  "    results = [()]",
  "    for pool in pools:",
  "        results = [front + (value,) for front in results for value in pool]",
  "    return iter(results)",
  "def permutations(values, r=None):",
  "    pool = tuple(values)",
  "    size = len(pool) if r is None else r",
  "    for places in product(range(len(pool)), repeat=size):",
  "        if len(set(places)) == size:",
  "            yield tuple(pool[place] for place in places)"]

def iterationsCombinations : List String := [
  "def combinations(values, r):",
  "    pool = tuple(values)",
  "    def choose(start, left):",
  "        if left == 0:",
  "            yield ()",
  "            return",
  "        for place in range(start, len(pool) - left + 1):",
  "            for rest in choose(place + 1, left - 1):",
  "                yield (pool[place],) + rest",
  "    return choose(0, r)",
  "def combinations_with_replacement(values, r):",
  "    pool = tuple(values)",
  "    def choose(start, left):",
  "        if left == 0:",
  "            yield ()",
  "            return",
  "        for place in range(start, len(pool)):",
  "            for rest in choose(place, left - 1):",
  "                yield (pool[place],) + rest",
  "    return choose(0, r)"]

def iterations : List String :=
  iterationsCount ++ iterationsChain ++ iterationsAccumulate ++ iterationsBatched ++
    iterationsTakewhile ++ iterationsIslice ++ iterationsPairwise ++ iterationsZipLongest ++
    iterationsCombinations

/-! Routines of routines. -/

def routinesReduce : List String := [
  "WRAPPER_ASSIGNMENTS = ('__module__', '__name__', '__qualname__', '__doc__')",
  "WRAPPER_UPDATES = ('__dict__',)",
  "_missing = object()",
  "def reduce(function, values, initial=_missing):",
  "    values = iter(values)",
  "    if initial is _missing:",
  "        try:",
  "            total = next(values)",
  "        except StopIteration:",
  "            raise TypeError('reduce() of empty iterable with no initial value') from None",
  "    else:",
  "        total = initial",
  "    for value in values:",
  "        total = function(total, value)",
  "    return total"]

def routinesPartial : List String := [
  "class partial:",
  "    def __init__(self, func, /, *args, **keywords):",
  "        self.func = func",
  "        self.args = args",
  "        self.keywords = keywords",
  "    def __call__(self, /, *args, **keywords):",
  "        return self.func(*self.args, *args, **dict(self.keywords, **keywords))",
  "    def __repr__(self):",
  "        parts = [repr(self.func)] + [repr(arg) for arg in self.args]",
  "        parts += ['%s=%r' % pair for pair in self.keywords.items()]",
  "        return 'functools.partial(%s)' % ', '.join(parts)",
  "def update_wrapper(wrapper, wrapped, assigned=WRAPPER_ASSIGNMENTS, updated=WRAPPER_UPDATES):",
  "    for name in assigned:",
  "        try:",
  "            setattr(wrapper, name, getattr(wrapped, name))",
  "        except AttributeError:",
  "            pass",
  "    wrapper.__wrapped__ = wrapped",
  "    return wrapper"]

def routinesWraps : List String := [
  "def wraps(wrapped, assigned=WRAPPER_ASSIGNMENTS, updated=WRAPPER_UPDATES):",
  "    return lambda wrapper: update_wrapper(wrapper, wrapped, assigned, updated)",
  "class _CacheInfo(tuple):",
  "    def __new__(cls, *values):",
  "        self = tuple.__new__(cls, values)",
  "        self.hits, self.misses, self.maxsize, self.currsize = values",
  "        return self",
  "    def __repr__(self):",
  "        return 'CacheInfo(hits=%r, misses=%r, maxsize=%r, currsize=%r)' % tuple(self)",
  "def lru_cache(maxsize=128, typed=False):",
  "    if callable(maxsize):",
  "        return lru_cache()(maxsize)",
  "    def decorate(function):",
  "        kept = dict()",
  "        counts = [0, 0]",
  "        def wrapper(*args, **named):",
  "            key = (args, tuple(sorted(named.items()))) if named else args",
  "            if key in kept:",
  "                counts[0] += 1",
  "                value = kept.pop(key)",
  "                kept[key] = value",
  "                return value",
  "            counts[1] += 1",
  "            value = function(*args, **named)",
  "            kept[key] = value",
  "            if maxsize is not None and len(kept) > maxsize:",
  "                del kept[next(iter(kept))]",
  "            return value",
  "        def cache_info():",
  "            return _CacheInfo(counts[0], counts[1], maxsize, len(kept))",
  "        def cache_clear():",
  "            kept.clear()",
  "            counts[:] = [0, 0]",
  "        wrapper.cache_info = cache_info",
  "        wrapper.cache_clear = cache_clear",
  "        return update_wrapper(wrapper, function)",
  "    return decorate"]

def routinesCache : List String := [
  "def cache(function):",
  "    return lru_cache(maxsize=None)(function)",
  "class cached_property:",
  "    def __init__(self, func):",
  "        self.func = func",
  "        self.name = None",
  "    def __set_name__(self, owner, name):",
  "        self.name = name",
  "    def __get__(self, object, owner=None):",
  "        if object is None:",
  "            return self",
  "        value = self.func(object)",
  "        object.__dict__[self.name] = value",
  "        setattr(object, self.name, value)",
  "        return value"]

def routinesCmpToKey : List String := [
  "def cmp_to_key(compare):",
  "    class K:",
  "        def __init__(self, value):",
  "            self.obj = value",
  "        def __lt__(self, other):",
  "            return compare(self.obj, other.obj) < 0",
  "        def __gt__(self, other):",
  "            return compare(self.obj, other.obj) > 0",
  "        def __eq__(self, other):",
  "            return compare(self.obj, other.obj) == 0",
  "        def __le__(self, other):",
  "            return compare(self.obj, other.obj) <= 0",
  "        def __ge__(self, other):",
  "            return compare(self.obj, other.obj) >= 0",
  "    return K"]

def routinesTotalOrdering : List String := [
  "def total_ordering(cls):",
  "    names = cls.__dict__",
  "    if '__lt__' in names:",
  "        less = cls.__lt__",
  "        cls.__gt__ = lambda a, b: not (less(a, b) or a == b)",
  "        cls.__le__ = lambda a, b: less(a, b) or a == b",
  "        cls.__ge__ = lambda a, b: not less(a, b)",
  "    elif '__le__' in names:",
  "        most = cls.__le__",
  "        cls.__lt__ = lambda a, b: most(a, b) and not a == b",
  "        cls.__gt__ = lambda a, b: not most(a, b)",
  "        cls.__ge__ = lambda a, b: not most(a, b) or a == b",
  "    elif '__gt__' in names:",
  "        greater = cls.__gt__",
  "        cls.__lt__ = lambda a, b: not (greater(a, b) or a == b)",
  "        cls.__ge__ = lambda a, b: greater(a, b) or a == b",
  "        cls.__le__ = lambda a, b: not greater(a, b)",
  "    elif '__ge__' in names:",
  "        least = cls.__ge__",
  "        cls.__gt__ = lambda a, b: least(a, b) and not a == b",
  "        cls.__lt__ = lambda a, b: not least(a, b)",
  "        cls.__le__ = lambda a, b: not least(a, b) or a == b",
  "    else:",
  "        raise ValueError('must define at least one ordering operation: < > <= >=')",
  "    return cls"]

def routinesSingledispatch : List String := [
  "def singledispatch(function):",
  "    table = dict()",
  "    def dispatch(cls):",
  "        for entry in cls.__mro__:",
  "            if entry in table:",
  "                return table[entry]",
  "        return function",
  "    def register(cls, func=None):",
  "        if func is None:",
  "            return lambda func: register(cls, func)",
  "        table[cls] = func",
  "        return func",
  "    def wrapper(*args, **named):",
  "        return dispatch(args[0].__class__)(*args, **named)",
  "    wrapper.register = register",
  "    wrapper.dispatch = dispatch",
  "    return update_wrapper(wrapper, function)"]

def routines : List String :=
  routinesReduce ++ routinesPartial ++ routinesWraps ++ routinesCache ++ routinesCmpToKey ++
    routinesTotalOrdering ++ routinesSingledispatch

/-! Operations as routines. -/

def operationsAdd : List String := [
  "def add(a, b): return a + b",
  "def sub(a, b): return a - b",
  "def mul(a, b): return a * b",
  "def truediv(a, b): return a / b",
  "def floordiv(a, b): return a // b",
  "def mod(a, b): return a % b",
  "def pow(a, b): return a ** b",
  "def neg(a): return -a",
  "def pos(a): return +a",
  "def inv(a): return ~a",
  "invert = inv",
  "def and_(a, b): return a & b"]

def operationsOr : List String := [
  "def or_(a, b): return a | b",
  "def xor(a, b): return a ^ b",
  "def lshift(a, b): return a << b",
  "def rshift(a, b): return a >> b",
  "def not_(a): return not a",
  "def truth(a): return bool(a)",
  "def eq(a, b): return a == b",
  "def ne(a, b): return a != b",
  "def lt(a, b): return a < b",
  "def le(a, b): return a <= b",
  "def gt(a, b): return a > b",
  "def ge(a, b): return a >= b"]

def operationsIs : List String := [
  "def is_(a, b): return a is b",
  "def is_not(a, b): return a is not b",
  "def contains(a, b): return b in a",
  "def concat(a, b): return a + b",
  "def getitem(a, b): return a[b]",
  "def index(a): return a.__index__()",
  "def countOf(a, b): return list(a).count(b)",
  "def indexOf(a, b): return list(a).index(b)",
  "def setitem(a, b, c):",
  "    a[b] = c",
  "def delitem(a, b):",
  "    del a[b]"]

def operationsIadd : List String := [
  "def iadd(a, b):",
  "    a += b",
  "    return a",
  "def itemgetter(*items):",
  "    if len(items) == 1:",
  "        return lambda value: value[items[0]]",
  "    return lambda value: tuple(value[item] for item in items)",
  "def _resolve(value, name):",
  "    for part in name.split('.'):",
  "        value = getattr(value, part)",
  "    return value",
  "def attrgetter(*names):",
  "    if len(names) == 1:",
  "        return lambda value: _resolve(value, names[0])",
  "    return lambda value: tuple(_resolve(value, name) for name in names)"]

def operationsMethodcaller : List String := [
  "def methodcaller(name, /, *args, **named):",
  "    return lambda value: getattr(value, name)(*args, **named)"]

def operations : List String :=
  operationsAdd ++ operationsOr ++ operationsIs ++ operationsIadd ++ operationsMethodcaller

/-! Copies of values. -/

def copiesError : List String := [
  "class Error(Exception):",
  "    pass",
  "def copy(value):",
  "    if hasattr(value, '__copy__'):",
  "        return value.__copy__()",
  "    if type(value) in (list, dict, set, bytearray):",
  "        return value.copy()",
  "    if not hasattr(value, '__dict__') or isinstance(value, type) or callable(value):",
  "        return value",
  "    return _remade(value, lambda part: part)",
  "def _remade(value, work):",
  "    cls = value.__class__",
  "    made = None",
  "    for kind in (dict, list, set):",
  "        if isinstance(value, kind):",
  "            made = kind.__new__(cls)",
  "            if kind is dict:",
  "                for key in list(value):",
  "                    dict.__setitem__(made, work(key), work(dict.get(value, key)))",
  "            elif kind is list:",
  "                made.extend(work(part) for part in list(value))",
  "            else:",
  "                made.update(work(part) for part in list(value))",
  "    if made is None:",
  "        for kind in (tuple, str, int, float, bytes):",
  "            if isinstance(value, kind):",
  "                parts = [work(part) for part in tuple(value)] if kind is tuple else value",
  "                made = kind.__new__(cls, parts)",
  "    if made is None:",
  "        made = object.__new__(cls)",
  "    for name, part in value.__dict__.items():",
  "        object.__setattr__(made, name, work(part))",
  "    return made"]

def copiesDeepcopy : List String := [
  "def deepcopy(value, memo=None):",
  "    memo = dict() if memo is None else memo",
  "    if id(value) in memo:",
  "        return memo[id(value)]",
  "    if value is None or isinstance(value, (type, bool)):",
  "        return value",
  "    kind = type(value)",
  "    if kind in (int, float, str, bytes):",
  "        return value",
  "    if kind is tuple:",
  "        made = tuple(deepcopy(part, memo) for part in value)",
  "    elif kind is list:",
  "        made = []",
  "        memo[id(value)] = made",
  "        made.extend(deepcopy(part, memo) for part in value)",
  "    elif kind is dict:",
  "        made = dict()",
  "        memo[id(value)] = made",
  "        for key, part in value.items():",
  "            made[deepcopy(key, memo)] = deepcopy(part, memo)",
  "    elif kind in (set, frozenset):",
  "        made = kind(deepcopy(part, memo) for part in value)",
  "    elif hasattr(value, '__deepcopy__'):",
  "        made = value.__deepcopy__(memo)",
  "    elif callable(value) or not hasattr(value, '__dict__'):",
  "        return value",
  "    else:",
  "        made = _remade(value, lambda part: deepcopy(part, memo))",
  "    memo[id(value)] = made",
  "    return made"]

def copies : List String :=
  copiesError ++ copiesDeepcopy

/-! Lists whose least value comes first. -/

def heapsRise : List String := [
  "def _rise(heap, place):",
  "    while place > 0:",
  "        above = (place - 1) // 2",
  "        if not heap[place] < heap[above]:",
  "            break",
  "        heap[place], heap[above] = heap[above], heap[place]",
  "        place = above",
  "def _sink(heap, place):",
  "    start = place",
  "    size = len(heap)",
  "    item = heap[place]",
  "    below = 2 * place + 1",
  "    while below < size:",
  "        if below + 1 < size and not heap[below] < heap[below + 1]:",
  "            below += 1",
  "        heap[place] = heap[below]",
  "        place = below",
  "        below = 2 * place + 1",
  "    heap[place] = item",
  "    while place > start:",
  "        above = (place - 1) // 2",
  "        if not heap[place] < heap[above]:",
  "            break",
  "        heap[place], heap[above] = heap[above], heap[place]",
  "        place = above"]

def heapsHeappush : List String := [
  "def heappush(heap, item):",
  "    heap.append(item)",
  "    _rise(heap, len(heap) - 1)",
  "def heappop(heap):",
  "    last = heap.pop()",
  "    if not heap:",
  "        return last",
  "    item, heap[0] = heap[0], last",
  "    _sink(heap, 0)",
  "    return item",
  "def heapreplace(heap, item):",
  "    first, heap[0] = heap[0], item",
  "    _sink(heap, 0)",
  "    return first"]

def heapsHeappushpop : List String := [
  "def heappushpop(heap, item):",
  "    if heap and heap[0] < item:",
  "        item, heap[0] = heap[0], item",
  "        _sink(heap, 0)",
  "    return item",
  "def heapify(heap):",
  "    for place in range(len(heap) // 2 - 1, -1, -1):",
  "        _sink(heap, place)",
  "def nsmallest(n, values, key=None):",
  "    return sorted(values, key=key)[:n]",
  "def nlargest(n, values, key=None):",
  "    return sorted(values, key=key, reverse=True)[:n]"]

def heapsMerge : List String := [
  "def merge(*sources, key=None, reverse=False):",
  "    return iter(sorted([value for source in sources for value in source], key=key,",
  "                       reverse=reverse))"]

def heaps : List String :=
  heapsRise ++ heapsHeappush ++ heapsHeappushpop ++ heapsMerge

/-! Places in sorted lists. -/

def searchesBisectRight : List String := [
  "def bisect_right(a, x, lo=0, hi=None, *, key=None):",
  "    hi = len(a) if hi is None else hi",
  "    while lo < hi:",
  "        mid = (lo + hi) // 2",
  "        if x < (a[mid] if key is None else key(a[mid])):",
  "            hi = mid",
  "        else:",
  "            lo = mid + 1",
  "    return lo",
  "def bisect_left(a, x, lo=0, hi=None, *, key=None):",
  "    hi = len(a) if hi is None else hi",
  "    while lo < hi:",
  "        mid = (lo + hi) // 2",
  "        if (a[mid] if key is None else key(a[mid])) < x:",
  "            lo = mid + 1",
  "        else:",
  "            hi = mid",
  "    return lo",
  "bisect = bisect_right"]

def searchesInsortRight : List String := [
  "def insort_right(a, x, lo=0, hi=None, *, key=None):",
  "    a.insert(bisect_right(a, x if key is None else key(x), lo, hi, key=key), x)",
  "def insort_left(a, x, lo=0, hi=None, *, key=None):",
  "    a.insert(bisect_left(a, x if key is None else key(x), lo, hi, key=key), x)",
  "insort = insort_right"]

def searches : List String :=
  searchesBisectRight ++ searchesInsortRight

/-! Measures of numbers. -/

def measuresStatisticsError : List String := [
  "import math as _math",
  "class StatisticsError(ValueError):",
  "    pass",
  "def _whole(value, values):",
  "    if all(isinstance(item, int) for item in values) and value == int(value):",
  "        return int(value)",
  "    return value",
  "def _checked(name, data):",
  "    data = list(data)",
  "    if not data:",
  "        raise StatisticsError('%s requires at least one data point' % name)",
  "    return data"]

def measuresMean : List String := [
  "def mean(data):",
  "    data = _checked('mean', data)",
  "    if all(isinstance(item, int) for item in data):",
  "        total = sum(data)",
  "        return total // len(data) if total % len(data) == 0 else total / len(data)",
  "    return _math.fsum(data) / len(data)",
  "def fmean(data):",
  "    data = _checked('fmean', data)",
  "    return _math.fsum(data) / len(data)",
  "def median(data):",
  "    data = sorted(data)",
  "    if not data:",
  "        raise StatisticsError('no median for empty data')",
  "    half = len(data) // 2",
  "    return data[half] if len(data) % 2 else (data[half - 1] + data[half]) / 2"]

def measuresMedianLow : List String := [
  "def median_low(data):",
  "    data = sorted(data)",
  "    if not data:",
  "        raise StatisticsError('no median for empty data')",
  "    return data[(len(data) - 1) // 2]",
  "def median_high(data):",
  "    data = sorted(data)",
  "    if not data:",
  "        raise StatisticsError('no median for empty data')",
  "    return data[len(data) // 2]",
  "def multimode(data):",
  "    counts = dict()",
  "    for item in data:",
  "        counts[item] = counts.get(item, 0) + 1",
  "    most = max(counts.values(), default=0)",
  "    return [item for item, count in counts.items() if count == most]"]

def measuresMode : List String := [
  "def mode(data):",
  "    found = multimode(data)",
  "    if not found:",
  "        raise StatisticsError('no mode for empty data')",
  "    return found[0]",
  "def _squares(data, center):",
  "    middle = mean(data) if center is None else center",
  "    return _math.fsum((item - middle) ** 2 for item in data)",
  "def variance(data, xbar=None):",
  "    data = list(data)",
  "    if len(data) < 2:",
  "        raise StatisticsError('variance requires at least two data points')",
  "    return _whole(_squares(data, xbar) / (len(data) - 1), data)"]

def measuresPvariance : List String := [
  "def pvariance(data, mu=None):",
  "    data = _checked('pvariance', data)",
  "    return _whole(_squares(data, mu) / len(data), data)",
  "def stdev(data, xbar=None):",
  "    data = list(data)",
  "    if len(data) < 2:",
  "        raise StatisticsError('stdev requires at least two data points')",
  "    return _math.sqrt(_squares(data, xbar) / (len(data) - 1))",
  "def pstdev(data, mu=None):",
  "    data = _checked('pstdev', data)",
  "    return _math.sqrt(_squares(data, mu) / len(data))"]

def measures : List String :=
  measuresStatisticsError ++ measuresMean ++ measuresMedianLow ++ measuresMode ++
    measuresPvariance

end ShaderCost.Script.Indented.Written
