import ShaderCost.Text.Basic

/-!
Parts of the library that are told in the language itself: types that are made in ways of
their own.
-/

namespace ShaderCost.Script.Indented.Written

/-! Types with few members. -/

def enumerationsAuto : List String := [
  "class auto:",
  "    def __init__(self, value=None):",
  "        self.value = value",
  "class nonmember:",
  "    def __init__(self, value):",
  "        self.value = value",
  "def _special(name):",
  "    return name.startswith('_') and name.endswith('_')",
  "def _descriptor(value):",
  "    return callable(value) or isinstance(value, (property, staticmethod, classmethod))",
  "class Enum:",
  "    def __init_subclass__(cls, **named):",
  "        own = cls.__dict__",
  "        cls._member_map_ = dict()",
  "        cls._ignored_ = None",
  "        init = own.get('__init__')",
  "        if init is not None:",
  "            delattr(cls, '__init__')",
  "        maker = own.get('__new__')",
  "        if maker is not None:",
  "            delattr(cls, '__new__')",
  "        last = []",
  "        for name, value in own.items():",
  "            if _special(name) or _descriptor(value) and not isinstance(value, auto):",
  "                continue",
  "            if name.startswith('_' + cls.__name__ + '__'):",
  "                continue",
  "            if isinstance(value, nonmember):",
  "                setattr(cls, name, value.value)",
  "                continue",
  "            if isinstance(value, auto):",
  "                value = cls._generate_next_value_(name, 1, len(last), list(last))",
  "            elif isinstance(value, tuple) and any(isinstance(part, auto) for part in value):",
  "                value = tuple(cls._generate_next_value_(name, 1, len(last), list(last))",
  "                              if isinstance(part, auto) else part for part in value)",
  "            last.append(value)"]

def enumerationsMade : List String := [
  "            member = cls._made(value, maker)",
  "            if not hasattr(member, '_value_'):",
  "                object.__setattr__(member, '_value_', value)",
  "            member._name_ = name",
  "            if init is not None:",
  "                init(member, *(value if isinstance(value, tuple) else (value,)))",
  "            for other in cls._member_map_.values():",
  "                if other._value_ == member._value_:",
  "                    member = other",
  "                    break",
  "            cls._member_map_[name] = member",
  "            setattr(cls, name, member)",
  "    @classmethod",
  "    def _made(cls, value, maker):",
  "        if maker is not None:",
  "            return maker(cls, *(value if isinstance(value, tuple) else (value,)))",
  "        for kind in (str, int, float, bytes):",
  "            if kind in cls.__mro__:",
  "                arguments = value if isinstance(value, tuple) else (value,)",
  "                member = kind.__new__(cls, *arguments)",
  "                member._value_ = value if not isinstance(value, tuple) else kind(*value)",
  "                return member",
  "        return object.__new__(cls)",
  "    def __new__(cls, value, *rest, **named):",
  "        if cls in (Enum, IntEnum, StrEnum, Flag, IntFlag) or not cls._member_map_:",
  "            return _functional(cls, value, *rest, **named)",
  "        if isinstance(value, cls):",
  "            return value",
  "        for member in cls._member_map_.values():",
  "            if member._value_ == value:",
  "                return member",
  "        found = cls._missing_(value)",
  "        if found is not None:",
  "            return found",
  "        raise ValueError('%r is not a valid %s' % (value, cls.__qualname__))"]

def enumerationsMissing : List String := [
  "    @classmethod",
  "    def _missing_(cls, value):",
  "        return None",
  "    @staticmethod",
  "    def _generate_next_value_(name, start, count, last_values):",
  "        numbers = [value for value in last_values if isinstance(value, int)]",
  "        return max(numbers) + 1 if numbers else start",
  "    @classmethod",
  "    def __values__(cls):",
  "        seen = []",
  "        for name, member in cls._member_map_.items():",
  "            if member._name_ == name:",
  "                seen.append(member)",
  "        return iter(seen)",
  "    def __class_getitem__(cls, name):",
  "        return cls._member_map_[name]",
  "    @property",
  "    def name(self):",
  "        return self._name_",
  "    @property",
  "    def value(self):",
  "        return self._value_",
  "    def __repr__(self):",
  "        return '<%s.%s: %r>' % (self.__class__.__name__, self._name_, self._value_)",
  "    def __str__(self):",
  "        return '%s.%s' % (self.__class__.__name__, self._name_)",
  "    def __format__(self, format):",
  "        return format_text(str(self), format)",
  "    def __copy__(self):",
  "        return self",
  "    def __deepcopy__(self, memo):",
  "        return self"]

def enumerationsFormatText : List String := [
  "def format_text(text, format):",
  "    return text.__format__(format)",
  "def _functional(base, name, names=(), *, start=1, module=None, type=None):",
  "    if isinstance(names, str):",
  "        names = names.replace(',', ' ').split()",
  "    members = dict()",
  "    if isinstance(names, dict):",
  "        names = list(names.items())",
  "    for place, item in enumerate(names):",
  "        if isinstance(item, str):",
  "            if issubclass(base, Flag):",
  "                members[item] = start << place",
  "            else:",
  "                members[item] = item.lower() if issubclass(base, StrEnum) else start + place",
  "        else:",
  "            members[item[0]] = item[1]",
  "    return _type(name, (base,), members)",
  "_type = type"]

def enumerationsIntEnum : List String := [
  "class IntEnum(int, Enum):",
  "    def __str__(self):",
  "        return str(self._value_)",
  "    def __format__(self, format):",
  "        return self._value_.__format__(format)",
  "class StrEnum(str, Enum):",
  "    @staticmethod",
  "    def _generate_next_value_(name, start, count, last_values):",
  "        return name.lower()",
  "    def __str__(self):",
  "        return self._value_",
  "    def __format__(self, format):",
  "        return self._value_.__format__(format)"]

def enumerationsFlag : List String := [
  "class Flag(Enum):",
  "    @staticmethod",
  "    def _generate_next_value_(name, start, count, last_values):",
  "        return 1 << max(last_values).bit_length() if last_values else 1",
  "    @classmethod",
  "    def _missing_(cls, value):",
  "        if not isinstance(value, int):",
  "            return None",
  "        every = 0",
  "        for member in cls._member_map_.values():",
  "            every |= member._value_",
  "        if value < 0:",
  "            value = every & value",
  "        if value & ~every:",
  "            return None",
  "        member = cls._made(value, None)",
  "        member._value_ = value",
  "        names = [part._name_ for part in cls.__values__() if part._value_ & value]",
  "        member._name_ = '|'.join(names) if value else None",
  "        return member",
  "    def _number(self, other):",
  "        return other._value_ if isinstance(other, Flag) else other",
  "    def __or__(self, other):",
  "        return self.__class__(self._value_ | self._number(other))",
  "    def __and__(self, other):",
  "        return self.__class__(self._value_ & self._number(other))",
  "    def __xor__(self, other):",
  "        return self.__class__(self._value_ ^ self._number(other))",
  "    def __invert__(self):",
  "        return self.__class__(~self._value_)",
  "    def __bool__(self):",
  "        return bool(self._value_)",
  "    def __contains__(self, other):",
  "        return other._value_ & self._value_ == other._value_"]

def enumerationsMore : List String := [
  "    def __iter__(self):",
  "        number = self._value_",
  "        return iter([part for part in self.__class__.__values__() if part._value_ & number])",
  "    def __eq__(self, other):",
  "        return self._value_ == self._number(other)",
  "    def __hash__(self):",
  "        return hash(self._value_)",
  "    def __repr__(self):",
  "        if self._name_ is None:",
  "            return '<%s: %r>' % (self.__class__.__name__, self._value_)",
  "        return '<%s.%s: %r>' % (self.__class__.__name__, self._name_, self._value_)",
  "    def __str__(self):",
  "        if self._name_ is None:",
  "            return '%s(%r)' % (self.__class__.__name__, self._value_)",
  "        return '%s.%s' % (self.__class__.__name__, self._name_)"]

def enumerationsIntFlag : List String := [
  "class IntFlag(int, Flag):",
  "    def __str__(self):",
  "        return str(self._value_)",
  "    def __format__(self, format):",
  "        return self._value_.__format__(format)",
  "def unique(cls):",
  "    for name, member in cls._member_map_.items():",
  "        if member._name_ != name:",
  "            raise ValueError('duplicate values found in %r: %s -> %s' % (",
  "                cls, name, member._name_))",
  "    return cls",
  "EnumMeta = EnumType = type"]

def enumerations : List String :=
  enumerationsAuto ++ enumerationsMade ++ enumerationsMissing ++ enumerationsFormatText ++
    enumerationsIntEnum ++ enumerationsFlag ++ enumerationsMore ++ enumerationsIntFlag

/-! Types of fields. -/

def recordsFrozenInstanceError : List String := [
  "import copy as _copy",
  "class FrozenInstanceError(AttributeError):",
  "    pass",
  "class _Missing:",
  "    def __repr__(self):",
  "        return '<dataclasses._MISSING_TYPE object>'",
  "MISSING = _Missing()",
  "class _KwOnly:",
  "    pass",
  "KW_ONLY = _KwOnly()",
  "class InitVar:",
  "    def __class_getitem__(cls, item):",
  "        return cls"]

def recordsField : List String := [
  "class Field:",
  "    def __init__(self, default, default_factory, init, repr, hash, compare, metadata, kw_only):",
  "        self.name = None",
  "        self.type = None",
  "        self.default = default",
  "        self.default_factory = default_factory",
  "        self.init = init",
  "        self.repr = repr",
  "        self.hash = hash",
  "        self.compare = compare",
  "        self.metadata = metadata or dict()",
  "        self.kw_only = kw_only"]

def recordsFieldRest : List String := [
  "def field(*, default=MISSING, default_factory=MISSING, init=True, repr=True, hash=None,",
  "          compare=True, metadata=None, kw_only=MISSING):",
  "    if default is not MISSING and default_factory is not MISSING:",
  "        raise ValueError('cannot specify both default and default_factory')",
  "    return Field(default, default_factory, init, repr, hash, compare, metadata, kw_only)",
  "def _plain(kind):",
  "    text = kind if isinstance(kind, str) else getattr(kind, '_name', '')",
  "    return not (text == 'ClassVar' or text.startswith(('ClassVar[', 'typing.ClassVar')))",
  "def _quoted(names):",
  "    words = [repr(name) for name in names]",
  "    if len(words) == 1:",
  "        return words[0]",
  "    return ', '.join(words[:-1]) + (',' if len(words) > 2 else '') + ' and ' + words[-1]"]

def recordsCollect : List String := [
  "def _collect(cls, kw_only):",
  "    found = dict()",
  "    for base in cls.__mro__[:0:-1]:",
  "        for name, item in getattr(base, '__dataclass_fields__', dict()).items():",
  "            found[name] = item",
  "    own = cls.__dict__",
  "    for name, kind in own.get('__annotations__', dict()).items():",
  "        if kind is KW_ONLY or kind is _KwOnly:",
  "            kw_only = True",
  "            continue",
  "        if not _plain(kind):",
  "            continue",
  "        value = own.get(name, MISSING)",
  "        if isinstance(value, Field):",
  "            item = value",
  "            if item.default is not MISSING:",
  "                setattr(cls, name, item.default)",
  "            else:",
  "                delattr(cls, name)",
  "        else:",
  "            if isinstance(value, (list, dict, set)):",
  "                raise ValueError('mutable default %r for field %s is not allowed: use '",
  "                                 'default_factory' % (type(value), name))",
  "            item = field(default=value)",
  "        item.name = name",
  "        item.type = kind",
  "        if item.kw_only is MISSING:",
  "            item.kw_only = kw_only",
  "        found[name] = item",
  "    return found"]

def recordsChecked : List String := [
  "def _checked(cls, items):",
  "    seen = None",
  "    for item in items:",
  "        if item.init and not item.kw_only:",
  "            if item.default is MISSING and item.default_factory is MISSING:",
  "                if seen is not None:",
  "                    raise TypeError('non-default argument %r follows default argument %r' % (",
  "                        item.name, seen))",
  "            else:",
  "                seen = item.name",
  "def _initialiser(cls, items, frozen):",
  "    placed = [item for item in items if item.init and not item.kw_only]",
  "    named_only = [item for item in items if item.init and item.kw_only]",
  "    def __init__(self, *args, **named):",
  "        title = cls.__qualname__ + '.__init__()'",
  "        if len(args) > len(placed):",
  "            least = 1 + len([item for item in placed if item.default is MISSING",
  "                             and item.default_factory is MISSING])",
  "            most = len(placed) + 1",
  "            text = str(most) if least == most else 'from %d to %d' % (least, most)",
  "            raise TypeError('%s takes %s positional argument%s but %d were given' % (",
  "                title, text, '' if text == '1' else 's', len(args) + 1))",
  "        values = dict(zip([item.name for item in placed], args))",
  "        for name, value in named.items():",
  "            if name in values:",
  "                raise TypeError(\"%s got multiple values for argument '%s'\" % (title, name))",
  "            if not any(item.name == name for item in placed + named_only):",
  "                raise TypeError(\"%s got an unexpected keyword argument '%s'\" % (title, name))",
  "            values[name] = value",
  "        for kind, group in (('positional', placed), ('keyword-only', named_only)):",
  "            missing = [item.name for item in group if item.name not in values",
  "                       and item.default is MISSING and item.default_factory is MISSING]",
  "            if missing:",
  "                raise TypeError('%s missing %d required %s argument%s: %s' % (",
  "                    title, len(missing), kind, '' if len(missing) == 1 else 's',",
  "                    _quoted(missing)))"]

def recordsMore : List String := [
  "        extra = []",
  "        for item in items:",
  "            if item.name in values:",
  "                value = values[item.name]",
  "            elif item.default_factory is not MISSING:",
  "                value = item.default_factory()",
  "            elif item.default is not MISSING:",
  "                value = item.default",
  "            else:",
  "                continue",
  "            if item.type is InitVar:",
  "                extra.append(value)",
  "            else:",
  "                object.__setattr__(self, item.name, value)",
  "        if hasattr(self, '__post_init__'):",
  "            self.__post_init__(*extra)",
  "    return __init__"]

def recordsProcess : List String := [
  "def _process(cls, init, repr_, eq, order, unsafe_hash, frozen, match_args, kw_only, slots):",
  "    table = _collect(cls, kw_only)",
  "    items = list(table.values())",
  "    _checked(cls, items)",
  "    own = list(cls.__dict__)",
  "    cls.__dataclass_fields__ = table",
  "    shown = [item.name for item in items if item.repr and item.type is not InitVar]",
  "    compared = [item.name for item in items if item.compare]",
  "    def values(self, names=compared):",
  "        return tuple(getattr(self, name) for name in names)",
  "    if init:",
  "        cls.__init__ = _initialiser(cls, items, frozen)",
  "    if repr_ and '__repr__' not in own:",
  "        def __repr__(self):",
  "            pairs = ['%s=%r' % (name, getattr(self, name)) for name in shown]",
  "            return '%s(%s)' % (self.__class__.__qualname__, ', '.join(pairs))",
  "        cls.__repr__ = __repr__",
  "    if eq and '__eq__' not in own:",
  "        def __eq__(self, other):",
  "            if other.__class__ is not self.__class__:",
  "                return NotImplemented",
  "            return values(self) == values(other)",
  "        cls.__eq__ = __eq__",
  "    if order:",
  "        def compare(work):",
  "            def method(self, other):",
  "                if other.__class__ is not self.__class__:",
  "                    return NotImplemented",
  "                return work(values(self), values(other))",
  "            return method",
  "        cls.__lt__ = compare(lambda a, b: a < b)",
  "        cls.__le__ = compare(lambda a, b: a <= b)",
  "        cls.__gt__ = compare(lambda a, b: a > b)",
  "        cls.__ge__ = compare(lambda a, b: a >= b)",
  "    if (eq and frozen or unsafe_hash) and '__hash__' not in own:",
  "        cls.__hash__ = lambda self: hash(values(self))"]

def recordsRest : List String := [
  "    if frozen:",
  "        def __setattr__(self, name, value):",
  "            raise FrozenInstanceError('cannot assign to field %r' % name)",
  "        def __delattr__(self, name):",
  "            raise FrozenInstanceError('cannot delete field %r' % name)",
  "        cls.__setattr__ = __setattr__",
  "        cls.__delattr__ = __delattr__",
  "    if match_args:",
  "        cls.__match_args__ = tuple(",
  "            item.name for item in items if item.init and not item.kw_only)",
  "    return cls"]

def recordsDataclass : List String := [
  "def dataclass(cls=None, /, *, init=True, repr=True, eq=True, order=False, unsafe_hash=False,",
  "              frozen=False, match_args=True, kw_only=False, slots=False, weakref_slot=False):",
  "    def wrap(cls):",
  "        return _process(cls, init, repr, eq, order, unsafe_hash, frozen, match_args, kw_only,",
  "                        slots)",
  "    return wrap if cls is None else wrap(cls)",
  "def fields(thing):",
  "    table = getattr(thing, '__dataclass_fields__', None)",
  "    if table is None:",
  "        raise TypeError('must be called with a dataclass type or instance')",
  "    return tuple(table.values())",
  "def is_dataclass(thing):",
  "    return hasattr(thing, '__dataclass_fields__')"]

def recordsInner : List String := [
  "def _inner(value, factory):",
  "    if is_dataclass(value) and not isinstance(value, type):",
  "        return factory([(item.name, _inner(getattr(value, item.name), factory))",
  "                        for item in fields(value)])",
  "    if isinstance(value, (list, tuple)):",
  "        return type(value)([_inner(item, factory) for item in value])",
  "    if isinstance(value, dict):",
  "        return dict((key, _inner(item, factory)) for key, item in value.items())",
  "    return value",
  "def asdict(thing, *, dict_factory=dict):",
  "    return _inner(thing, dict_factory)",
  "def astuple(thing, *, tuple_factory=tuple):",
  "    return tuple_factory([getattr(thing, item.name) for item in fields(thing)])"]

def recordsReplace : List String := [
  "def replace(thing, /, **changes):",
  "    for item in fields(thing):",
  "        if item.init and item.name not in changes:",
  "            changes[item.name] = getattr(thing, item.name)",
  "    return thing.__class__(**changes)",
  "def make_dataclass(cls_name, fields, *, bases=(), namespace=None, **named):",
  "    members = dict(namespace or dict())",
  "    annotations = dict()",
  "    for item in fields:",
  "        if isinstance(item, str):",
  "            annotations[item] = object",
  "        else:",
  "            annotations[item[0]] = item[1]",
  "            if len(item) > 2:",
  "                members[item[0]] = item[2]",
  "    members['__annotations__'] = annotations",
  "    return dataclass(type(cls_name, tuple(bases), members), **named)"]

def records : List String :=
  recordsFrozenInstanceError ++ recordsField ++ recordsFieldRest ++ recordsCollect ++
    recordsChecked ++ recordsMore ++ recordsProcess ++ recordsRest ++ recordsDataclass ++
    recordsInner ++ recordsReplace

/-! What is said about types. -/

def hintsSpecial : List String := [
  "import collections as _collections",
  "TYPE_CHECKING = False",
  "class _Special:",
  "    def __init__(self, name):",
  "        self._name = name",
  "    def __getitem__(self, key):",
  "        return self",
  "    def __call__(self, *args, **named):",
  "        return self",
  "    def __or__(self, other):",
  "        return self",
  "    def __ror__(self, other):",
  "        return self",
  "    def __mro_entries__(self, bases):",
  "        return ()",
  "    def __repr__(self):",
  "        return 'typing.' + self._name",
  "Any, AnyStr, Callable, ClassVar, Final = map(",
  "    _Special, ['Any', 'AnyStr', 'Callable', 'ClassVar', 'Final'])",
  "Generic, Literal, Optional, Union, Annotated = map(",
  "    _Special, ['Generic', 'Literal', 'Optional', 'Union', 'Annotated'])",
  "NoReturn, Never, Self, LiteralString, TypeAlias = map(",
  "    _Special, ['NoReturn', 'Never', 'Self', 'LiteralString', 'TypeAlias'])",
  "Concatenate, TypeGuard, Required, NotRequired, Unpack = map(",
  "    _Special, ['Concatenate', 'TypeGuard', 'Required', 'NotRequired', 'Unpack'])"]

def hintsValues : List String := [
  "List, Dict, Set, FrozenSet, Tuple, Type = map(",
  "    _Special, ['List', 'Dict', 'Set', 'FrozenSet', 'Tuple', 'Type'])",
  "Deque, DefaultDict, OrderedDict, Counter, ChainMap = map(",
  "    _Special, ['Deque', 'DefaultDict', 'OrderedDict', 'Counter', 'ChainMap'])",
  "Iterable, Iterator, Sequence, MutableSequence, Mapping = map(",
  "    _Special, ['Iterable', 'Iterator', 'Sequence', 'MutableSequence', 'Mapping'])",
  "MutableMapping, Collection, Container, Sized, Hashable = map(",
  "    _Special, ['MutableMapping', 'Collection', 'Container', 'Sized', 'Hashable'])",
  "Generator, Awaitable, Coroutine, AsyncIterator, AsyncIterable = map(",
  "    _Special, ['Generator', 'Awaitable', 'Coroutine', 'AsyncIterator', 'AsyncIterable'])",
  "AbstractSet, ByteString, Reversible, KeysView, ValuesView = map(",
  "    _Special, ['AbstractSet', 'ByteString', 'Reversible', 'KeysView', 'ValuesView'])",
  "IO, TextIO, BinaryIO, Pattern, Match, SupportsInt, SupportsFloat = map(",
  "    _Special, ['IO', 'TextIO', 'BinaryIO', 'Pattern', 'Match', 'SupportsInt', 'SupportsFloat'])",
  "ContextManager, AsyncContextManager, Text = _Special('ContextManager'), _Special('Async'), str"]

def hintsProtocol : List String := [
  "class Protocol:",
  "    def __class_getitem__(cls, item):",
  "        return cls",
  "class TypedDict(dict):",
  "    def __init_subclass__(cls, **named):",
  "        pass",
  "def TypeVar(name, *args, **named):",
  "    return _Special(name)",
  "ParamSpec = TypeVarTuple = TypeVar",
  "def NewType(name, kind):",
  "    return lambda value: value",
  "def cast(kind, value):",
  "    return value"]

def hintsOverload : List String := [
  "def overload(function):",
  "    return function",
  "def final(thing):",
  "    return thing",
  "def no_type_check(thing):",
  "    return thing",
  "def override(function):",
  "    return function",
  "def runtime_checkable(cls):",
  "    return cls",
  "def assert_never(value):",
  "    raise AssertionError('Expected code to be unreachable, but got: %r' % (value,))"]

def hintsAssertType : List String := [
  "def assert_type(value, kind):",
  "    return value",
  "def reveal_type(value):",
  "    return value",
  "def get_type_hints(thing, *args, **named):",
  "    return dict(getattr(thing, '__annotations__', dict()))",
  "def get_origin(kind):",
  "    return None",
  "def get_args(kind):",
  "    return ()",
  "class NamedTuple(_collections._Record):",
  "    def __init_subclass__(cls, **named):",
  "        own = cls.__dict__",
  "        names = list(own.get('__annotations__', dict()))",
  "        if not names:",
  "            return",
  "        cls._field_defaults = dict((name, own[name]) for name in names if name in own)",
  "        cls._fields = tuple(names)",
  "        cls.__match_args__ = tuple(names)",
  "        for place, name in enumerate(names):",
  "            setattr(cls, name, _collections._Field(place))"]

def hints : List String :=
  hintsSpecial ++ hintsValues ++ hintsProtocol ++ hintsOverload ++ hintsAssertType

/-! Types that leave something open. -/

def abstractionsABC : List String := [
  "ABCMeta = type",
  "class ABC:",
  "    def __init_subclass__(cls, **named):",
  "        names = set()",
  "        for base in cls.__mro__[1:]:",
  "            names.update(getattr(base, '_abstract_names', ()))",
  "        for name, value in cls.__dict__.items():",
  "            if getattr(value, '__isabstractmethod__', False):",
  "                names.add(name)",
  "            elif isinstance(value, property) and (",
  "                    getattr(value.fget, '__isabstractmethod__', False)):",
  "                names.add(name)",
  "            else:",
  "                names.discard(name)",
  "        cls._abstract_names = names",
  "    def __new__(cls, *args, **named):",
  "        names = sorted(cls._abstract_names)",
  "        if names:",
  "            shown = ', '.join(repr(name) for name in names)",
  "            raise TypeError(",
  "                \"Can't instantiate abstract class %s without an implementation for abstract \"",
  "                \"method%s %s\" % (cls.__name__, '' if len(names) == 1 else 's', shown))",
  "        if issubclass(cls, BaseException):",
  "            return Exception.__new__(cls, *args)",
  "        return object.__new__(cls)",
  "    _abstract_names = frozenset()"]

def abstractionsAbstractmethod : List String := [
  "def abstractmethod(function):",
  "    if isinstance(function, (classmethod, staticmethod)):",
  "        function.__func__.__isabstractmethod__ = True",
  "    elif isinstance(function, property):",
  "        function.fget.__isabstractmethod__ = True",
  "    else:",
  "        function.__isabstractmethod__ = True",
  "    return function",
  "def abstractproperty(function):",
  "    return property(abstractmethod(function))"]

def abstractions : List String :=
  abstractionsABC ++ abstractionsAbstractmethod

/-! Types of the library. -/

def kindsProbe : List String := [
  "FunctionType = LambdaType = type(lambda: None)",
  "BuiltinFunctionType = BuiltinMethodType = type(len)",
  "NoneType = type(None)",
  "EllipsisType = type(...)",
  "NotImplementedType = type(NotImplemented)",
  "class _Probe:",
  "    def method(self):",
  "        pass",
  "MethodType = type(_Probe().method)",
  "def _series():",
  "    yield",
  "GeneratorType = type(_series())",
  "ModuleType = type(__import__('sys'))",
  "TracebackType = NoneType",
  "GenericAlias = type"]

def kindsSimpleNamespace : List String := [
  "class SimpleNamespace:",
  "    def __init__(self, **named):",
  "        for name, value in named.items():",
  "            setattr(self, name, value)",
  "    def __eq__(self, other):",
  "        return isinstance(other, SimpleNamespace) and vars(self) == vars(other)",
  "    def __repr__(self):",
  "        pairs = ['%s=%r' % pair for pair in vars(self).items()]",
  "        return 'namespace(%s)' % ', '.join(pairs)",
  "def MappingProxyType(table):",
  "    return dict(table)",
  "class DynamicClassAttribute(property):",
  "    pass"]

def kindsNewClass : List String := [
  "def new_class(name, bases=(), kwds=None, exec_body=None):",
  "    members = dict()",
  "    if exec_body is not None:",
  "        exec_body(members)",
  "    return type(name, tuple(bases), members)"]

def kinds : List String :=
  kindsProbe ++ kindsSimpleNamespace ++ kindsNewClass

/-! Managers. -/

def managersAbstractContextManager : List String := [
  "import sys",
  "class AbstractContextManager:",
  "    def __enter__(self):",
  "        return self",
  "    def __exit__(self, *args):",
  "        return None",
  "class ContextDecorator:",
  "    def __call__(self, function):",
  "        def wrapper(*args, **named):",
  "            with self:",
  "                return function(*args, **named)",
  "        return wrapper"]

def managersManager : List String := [
  "class _Manager(ContextDecorator):",
  "    def __init__(self, function, args, named):",
  "        self.parts = (function, args, named)",
  "        self.gen = function(*args, **named)",
  "    def __call__(self, function):",
  "        inner, args, named = self.parts",
  "        def wrapper(*given, **more):",
  "            with _Manager(inner, args, named):",
  "                return function(*given, **more)",
  "        return wrapper",
  "    def __enter__(self):",
  "        try:",
  "            return next(self.gen)",
  "        except StopIteration:",
  "            raise RuntimeError(\"generator didn't yield\") from None",
  "    def __exit__(self, type, value, traceback):",
  "        if type is None:",
  "            try:",
  "                next(self.gen)",
  "            except StopIteration:",
  "                return False",
  "            raise RuntimeError(\"generator didn't stop\")",
  "        try:",
  "            self.gen.throw(value)",
  "        except StopIteration as error:",
  "            return error is not value",
  "        except RuntimeError as error:",
  "            if error is value:",
  "                return False",
  "            if isinstance(value, StopIteration) and error.__cause__ is value:",
  "                return False",
  "            raise",
  "        except BaseException as error:",
  "            if error is not value:",
  "                raise",
  "            return False",
  "        raise RuntimeError(\"generator didn't stop after throw()\")"]

def managersContextmanager : List String := [
  "def contextmanager(function):",
  "    def helper(*args, **named):",
  "        return _Manager(function, args, named)",
  "    helper.__name__ = function.__name__",
  "    return helper",
  "class closing(AbstractContextManager):",
  "    def __init__(self, thing):",
  "        self.thing = thing",
  "    def __enter__(self):",
  "        return self.thing",
  "    def __exit__(self, *args):",
  "        self.thing.close()"]

def managersNullcontext : List String := [
  "class nullcontext(AbstractContextManager):",
  "    def __init__(self, enter_result=None):",
  "        self.enter_result = enter_result",
  "    def __enter__(self):",
  "        return self.enter_result",
  "class suppress(AbstractContextManager):",
  "    def __init__(self, *exceptions):",
  "        self._exceptions = exceptions",
  "    def __exit__(self, type, value, traceback):",
  "        return type is not None and issubclass(type, self._exceptions)",
  "class _Redirect(AbstractContextManager):",
  "    def __init__(self, target):",
  "        self._target = target",
  "        self._old = []",
  "    def __enter__(self):",
  "        self._old.append(getattr(sys, self._stream))",
  "        setattr(sys, self._stream, self._target)",
  "        return self._target",
  "    def __exit__(self, *args):",
  "        setattr(sys, self._stream, self._old.pop())"]

def managersRedirectStdout : List String := [
  "class redirect_stdout(_Redirect):",
  "    _stream = 'stdout'",
  "class redirect_stderr(_Redirect):",
  "    _stream = 'stderr'",
  "class ExitStack(AbstractContextManager):",
  "    def __init__(self):",
  "        self._callbacks = []",
  "    def enter_context(self, manager):",
  "        value = manager.__enter__()",
  "        self._callbacks.append(manager.__exit__)",
  "        return value",
  "    def push(self, exit):",
  "        self._callbacks.append(exit.__exit__ if hasattr(exit, '__exit__') else exit)",
  "        return exit",
  "    def callback(self, callback, /, *args, **named):",
  "        def leave(type, value, traceback):",
  "            callback(*args, **named)",
  "        self._callbacks.append(leave)",
  "        return callback",
  "    def pop_all(self):",
  "        other = ExitStack()",
  "        other._callbacks = self._callbacks",
  "        self._callbacks = []",
  "        return other",
  "    def close(self):",
  "        self.__exit__(None, None, None)",
  "    def __exit__(self, type, value, traceback):",
  "        received = value is not None",
  "        while self._callbacks:",
  "            leave = self._callbacks.pop()",
  "            try:",
  "                if leave(type, value, traceback):",
  "                    type = value = None",
  "            except BaseException as error:",
  "                type, value = error.__class__, error",
  "        if value is not None and not received:",
  "            raise value",
  "        return received and value is None"]

def managers : List String :=
  managersAbstractContextManager ++ managersManager ++ managersContextmanager ++
    managersNullcontext ++ managersRedirectStdout

end ShaderCost.Script.Indented.Written
