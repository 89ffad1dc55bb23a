import ShaderCost.Text.Basic

/-!
Parts of the library that are told in the language itself: texts, octets and numbers.
-/

namespace ShaderCost.Script.Indented.Written

/-! Templates. -/

def templatesCapwords : List String := [
  "import re as _re",
  "whitespace = ' \\t\\n\\r\\x0b\\x0c'",
  "ascii_lowercase = 'abcdefghijklmnopqrstuvwxyz'",
  "ascii_uppercase = 'ABCDEFGHIJKLMNOPQRSTUVWXYZ'",
  "ascii_letters = ascii_lowercase + ascii_uppercase",
  "digits = '0123456789'",
  "hexdigits = digits + 'abcdef' + 'ABCDEF'",
  "octdigits = '01234567'",
  "punctuation = '!\"#$%&\\'()*+,-./:;<=>?@[\\\\]^_\x60\\x7b|\\x7d~'",
  "printable = digits + ascii_letters + punctuation + whitespace",
  "def capwords(text, sep=None):",
  "    return (sep or ' ').join(word.capitalize() for word in text.split(sep))"]

def templatesTemplate : List String := [
  "class Template:",
  "    delimiter = '$'",
  "    _pattern = _re.compile(",
  "        r'\\$(?:(\\$)|([_a-zA-Z][_a-zA-Z0-9]*)|\\x7b([_a-zA-Z][_a-zA-Z0-9]*)\\x7d|())')",
  "    def __init__(self, template):",
  "        self.template = template",
  "    def _fill(self, table, strict):",
  "        def value(found):",
  "            if found.group(1):",
  "                return '$'",
  "            name = found.group(2) or found.group(3)",
  "            if name is None:",
  "                if not strict:",
  "                    return found.group(0)",
  "                lines = self.template[:found.start()].splitlines(keepends=True)",
  "                column = found.start() - len(''.join(lines[:-1])) + 1",
  "                raise ValueError('Invalid placeholder in string: line %d, col %d' % (",
  "                    max(len(lines), 1), column))",
  "            if strict or name in table:",
  "                return str(table[name])",
  "            return found.group(0)",
  "        return self._pattern.sub(value, self.template)",
  "    def substitute(self, mapping=(), /, **named):",
  "        return self._fill(dict(mapping, **named), True)",
  "    def safe_substitute(self, mapping=(), /, **named):",
  "        return self._fill(dict(mapping, **named), False)"]

def templatesFormatter : List String := [
  "class Formatter:",
  "    def format(self, text, /, *args, **named):",
  "        return text.format(*args, **named)",
  "    def vformat(self, text, args, named):",
  "        return text.format(*args, **named)"]

def templates : List String :=
  templatesCapwords ++ templatesTemplate ++ templatesFormatter

/-! Values in the notation of braces and brackets. -/

def notation_JSONEncoder : List String := [
  "class JSONEncoder:",
  "    def __init__(self, *, skipkeys=False, ensure_ascii=True, check_circular=True,",
  "                 allow_nan=True, sort_keys=False, indent=None, separators=None, default=None):",
  "        self._named = dict(skipkeys=skipkeys, ensure_ascii=ensure_ascii, allow_nan=allow_nan,",
  "                           sort_keys=sort_keys, indent=indent, separators=separators)",
  "        if default is not None:",
  "            self.default = default",
  "    def default(self, o):",
  "        raise TypeError('Object of type %s is not JSON serializable' % type(o).__name__)",
  "    def encode(self, o):",
  "        return dumps(o, default=self.default, **self._named)",
  "    def iterencode(self, o):",
  "        yield self.encode(o)"]

def notation_JSONDecoder : List String := [
  "class JSONDecoder:",
  "    def __init__(self, *, object_hook=None, parse_float=None, parse_int=None,",
  "                 object_pairs_hook=None):",
  "        self._named = dict(object_hook=object_hook, parse_float=parse_float,",
  "                           parse_int=parse_int, object_pairs_hook=object_pairs_hook)",
  "    def decode(self, s):",
  "        return loads(s, **self._named)"]

def notation_ : List String :=
  notation_JSONEncoder ++ notation_JSONDecoder

/-! Such values that are laid out. -/

def notationToolMain : List String := [
  "import argparse, json, sys",
  "def main():",
  "    text = 'A simple command line interface for json module to validate and pretty-print '",
  "    parser = argparse.ArgumentParser(",
  "        prog='python -m json.tool', description=text + 'JSON objects.')",
  "    parser.add_argument('infile', nargs='?', default='-',",
  "                        help='a JSON file to be validated or pretty-printed')",
  "    parser.add_argument('outfile', nargs='?', default=None,",
  "                        help='write the output of infile to outfile')",
  "    parser.add_argument('--sort-keys', action='store_true',",
  "                        help='sort the output of dictionaries alphabetically by key')",
  "    parser.add_argument('--no-ensure-ascii', dest='ensure_ascii', action='store_false',",
  "                        help='disable escaping of non-ASCII characters')",
  "    parser.add_argument('--json-lines', action='store_true',",
  "                        help='parse input using the JSON Lines format. Use with --no-indent '",
  "                             'or --compact to produce valid JSON Lines output.')",
  "    group = parser.add_mutually_exclusive_group()",
  "    group.add_argument('--indent', default=4, type=int,",
  "                       help='separate items with newlines and use this number of spaces for '",
  "                            'indentation')",
  "    group.add_argument('--tab', action='store_const', dest='indent', const='\\t',",
  "                       help='separate items with newlines and use tabs for indentation')",
  "    group.add_argument('--no-indent', action='store_const', dest='indent', const=None,",
  "                       help='separate items with spaces rather than newlines')",
  "    group.add_argument('--compact', action='store_true',",
  "                       help='suppress all whitespace separation (most compact)')",
  "    options = parser.parse_args()",
  "    named = dict(sort_keys=options.sort_keys, indent=options.indent,",
  "                 ensure_ascii=options.ensure_ascii)",
  "    if options.compact:",
  "        named['indent'] = None",
  "        named['separators'] = (',', ':')",
  "    try:",
  "        source = sys.stdin if options.infile == '-' else open(options.infile, encoding='utf-8')",
  "    except OSError as error:",
  "        parser.error(\"argument infile: can't open '%s': %s\" % (options.infile, error))"]

def notationToolMore : List String := [
  "    try:",
  "        if options.json_lines:",
  "            values = [json.loads(line) for line in source]",
  "        else:",
  "            values = [json.load(source)]",
  "        target = sys.stdout",
  "        if options.outfile:",
  "            target = open(options.outfile, 'w', encoding='utf-8')",
  "        for value in values:",
  "            json.dump(value, target, **named)",
  "            target.write('\\n')",
  "        target.flush()",
  "    except ValueError as error:",
  "        raise SystemExit(error)"]

def notationToolRest : List String := [
  "if __name__ == '__main__':",
  "    main()"]

def notationTool : List String :=
  notationToolMain ++ notationToolMore ++ notationToolRest

/-! Rows of fields. -/

def rowsError : List String := [
  "QUOTE_MINIMAL, QUOTE_ALL, QUOTE_NONNUMERIC, QUOTE_NONE = 0, 1, 2, 3",
  "class Error(Exception):",
  "    pass",
  "class Dialect:",
  "    delimiter = ','",
  "    quotechar = '\"'",
  "    escapechar = None",
  "    doublequote = True",
  "    skipinitialspace = False",
  "    lineterminator = '\\r\\n'",
  "    quoting = QUOTE_MINIMAL",
  "class excel(Dialect):",
  "    pass"]

def rowsExcelTab : List String := [
  "class excel_tab(excel):",
  "    delimiter = '\\t'",
  "class unix_dialect(Dialect):",
  "    lineterminator = '\\n'",
  "    quoting = QUOTE_ALL",
  "_dialects = dict([('excel', excel), ('excel-tab', excel_tab), ('unix', unix_dialect)])",
  "def list_dialects():",
  "    return list(_dialects)",
  "def register_dialect(name, dialect=None, **named):",
  "    _dialects[name] = _made(dialect or excel, named)",
  "def get_dialect(name):",
  "    return _dialects[name]"]

def rowsMade : List String := [
  "def _made(dialect, named):",
  "    if isinstance(dialect, str):",
  "        if dialect not in _dialects:",
  "            raise Error('unknown dialect')",
  "        dialect = _dialects[dialect]",
  "    result = Dialect()",
  "    for name in ('delimiter', 'quotechar', 'escapechar', 'doublequote', 'skipinitialspace',",
  "                 'lineterminator', 'quoting'):",
  "        setattr(result, name, named[name] if name in named else getattr(dialect, name))",
  "    return result",
  "class _Reader:",
  "    def __init__(self, source, dialect):",
  "        self.source = iter(source)",
  "        self.dialect = dialect",
  "        self.line_num = 0",
  "    def __iter__(self):",
  "        return self",
  "    def __next__(self):",
  "        style = self.dialect",
  "        fields, field, state, quoted = [], [], 'start', False",
  "        while True:",
  "            try:",
  "                line = next(self.source)",
  "            except StopIteration:",
  "                if state == 'within':",
  "                    break",
  "                raise",
  "            self.line_num += 1",
  "            for c in line:",
  "                if state == 'within':",
  "                    if c == style.escapechar:",
  "                        state = 'escaped within'",
  "                    elif c == style.quotechar:",
  "                        state = 'behind' if style.doublequote else 'plain'",
  "                    else:",
  "                        field.append(c)"]

def rowsValue : List String := [
  "                elif state in ('escaped', 'escaped within'):",
  "                    field.append(c)",
  "                    state = 'within' if state == 'escaped within' else 'plain'",
  "                elif state == 'behind' and c == style.quotechar:",
  "                    field.append(c)",
  "                    state = 'within'",
  "                elif c in '\\r\\n':",
  "                    continue",
  "                elif c == style.delimiter:",
  "                    fields.append(self._value(field, quoted))",
  "                    field, state, quoted = [], 'start', False",
  "                elif state == 'start' and c == style.quotechar and style.quoting != QUOTE_NONE:",
  "                    state, quoted = 'within', True",
  "                elif state == 'start' and c == ' ' and style.skipinitialspace:",
  "                    continue",
  "                elif c == style.escapechar:",
  "                    state = 'escaped'",
  "                else:",
  "                    field.append(c)",
  "                    state = 'plain'",
  "            if state != 'within':",
  "                break",
  "        if fields or field or state != 'start' or quoted:",
  "            fields.append(self._value(field, quoted))",
  "        return fields",
  "    def _value(self, field, quoted):",
  "        text = ''.join(field)",
  "        if self.dialect.quoting == QUOTE_NONNUMERIC and not quoted:",
  "            return float(text)",
  "        return text"]

def rowsReader : List String := [
  "def reader(csvfile, dialect='excel', **named):",
  "    return _Reader(csvfile, _made(dialect, named))",
  "class _Writer:",
  "    def __init__(self, target, dialect):",
  "        self.target = target",
  "        self.dialect = dialect",
  "    def _field(self, value, single):",
  "        style = self.dialect",
  "        text = '' if value is None else str(value)",
  "        marks = (style.delimiter, style.quotechar, '\\r', '\\n') + tuple(style.lineterminator)",
  "        special = any(c in text for c in marks if c) or style.quoting == QUOTE_MINIMAL and (",
  "            single and not text)",
  "        number = isinstance(value, (int, float))",
  "        if style.quoting == QUOTE_NONE:",
  "            if special and style.escapechar is None:",
  "                raise Error('need to escape, but no escapechar set')",
  "            return ''.join(style.escapechar + c if c in marks else c for c in text)",
  "        if style.quoting == QUOTE_ALL or special or (",
  "                style.quoting == QUOTE_NONNUMERIC and not number):",
  "            quote = style.quotechar",
  "            return quote + text.replace(quote, quote * 2) + quote",
  "        return text",
  "    def writerow(self, row):",
  "        row = list(row)",
  "        fields = [self._field(value, len(row) == 1) for value in row]",
  "        return self.target.write(",
  "            self.dialect.delimiter.join(fields) + self.dialect.lineterminator)",
  "    def writerows(self, rows):",
  "        for row in rows:",
  "            self.writerow(row)"]

def rowsWriter : List String := [
  "def writer(csvfile, dialect='excel', **named):",
  "    return _Writer(csvfile, _made(dialect, named))",
  "class DictReader:",
  "    def __init__(self, f, fieldnames=None, restkey=None, restval=None, dialect='excel',",
  "                 **named):",
  "        self._names = fieldnames",
  "        self.restkey = restkey",
  "        self.restval = restval",
  "        self.reader = reader(f, dialect, **named)",
  "    @property",
  "    def fieldnames(self):",
  "        if self._names is None:",
  "            try:",
  "                self._names = next(self.reader)",
  "            except StopIteration:",
  "                pass",
  "        return self._names",
  "    @property",
  "    def line_num(self):",
  "        return self.reader.line_num",
  "    def __iter__(self):",
  "        return self",
  "    def __next__(self):",
  "        names = self.fieldnames",
  "        row = next(self.reader)",
  "        while row == []:",
  "            row = next(self.reader)",
  "        result = dict(zip(names, row))",
  "        if len(names) < len(row):",
  "            result[self.restkey] = row[len(names):]",
  "        for name in names[len(row):]:",
  "            result[name] = self.restval",
  "        return result"]

def rowsDictWriter : List String := [
  "class DictWriter:",
  "    def __init__(self, f, fieldnames, restval='', extrasaction='raise', dialect='excel',",
  "                 **named):",
  "        self.fieldnames = fieldnames",
  "        self.restval = restval",
  "        self.extrasaction = extrasaction",
  "        self.writer = writer(f, dialect, **named)",
  "    def writeheader(self):",
  "        return self.writerow(dict(zip(self.fieldnames, self.fieldnames)))",
  "    def writerow(self, row):",
  "        wrong = [name for name in row if name not in self.fieldnames]",
  "        if wrong and self.extrasaction == 'raise':",
  "            raise ValueError('dict contains fields not in fieldnames: '",
  "                             + ', '.join([repr(name) for name in wrong]))",
  "        return self.writer.writerow(row.get(name, self.restval) for name in self.fieldnames)",
  "    def writerows(self, rows):",
  "        for row in rows:",
  "            self.writerow(row)"]

def rows : List String :=
  rowsError ++ rowsExcelTab ++ rowsMade ++ rowsValue ++ rowsReader ++ rowsWriter ++ rowsDictWriter

/-! Values that are laid out. -/

def layingOutKey : List String := [
  "import sys",
  "def _key(value):",
  "    return (str(type(value)), value) if isinstance(value, (int, float, str, bytes)) else (",
  "        str(type(value)), repr(value))",
  "class PrettyPrinter:",
  "    def __init__(self, indent=1, width=80, depth=None, stream=None, *, compact=False,",
  "                 sort_dicts=True, underscore_numbers=False):",
  "        self.indent = indent",
  "        self.width = width",
  "        self.depth = depth",
  "        self.stream = stream",
  "        self.compact = compact",
  "        self.sort_dicts = sort_dicts",
  "        self.underscore_numbers = underscore_numbers",
  "    def pprint(self, value):",
  "        stream = self.stream or sys.stdout",
  "        stream.write(self.pformat(value) + '\\n')",
  "    def pformat(self, value):",
  "        return self._text(value, 0, 0, 1)",
  "    def _pairs(self, table):",
  "        if self.sort_dicts:",
  "            try:",
  "                return sorted(table.items())",
  "            except TypeError:",
  "                return sorted(table.items(), key=lambda pair: _key(pair[0]))",
  "        return list(table.items())"]

def layingOutPlain : List String := [
  "    def _plain(self, value, level=1):",
  "        kind = type(value)",
  "        if self.depth is not None and level > self.depth and value and (",
  "                kind in (dict, list, tuple)):",
  "            return dict([(dict, '\\x7b...\\x7d'), (list, '[...]'), (tuple, '(...)')])[kind]",
  "        if kind is dict:",
  "            parts = [self._plain(k, level + 1) + ': ' + self._plain(v, level + 1)",
  "                     for k, v in self._pairs(value)]",
  "            return '\\x7b' + ', '.join(parts) + '\\x7d'",
  "        if kind in (list, tuple):",
  "            parts = [self._plain(item, level + 1) for item in value]",
  "            if kind is list:",
  "                return '[' + ', '.join(parts) + ']'",
  "            return '(' + ', '.join(parts) + (',)' if len(parts) == 1 else ')')",
  "        if kind is int and self.underscore_numbers:",
  "            return format(value, '_d')",
  "        return repr(value)",
  "    def _text(self, value, indent, allowance, level):",
  "        plain = self._plain(value, level)",
  "        kind = type(value)",
  "        room = self.width - indent - allowance",
  "        if len(plain) <= room or self.depth is not None and level > self.depth:",
  "            return plain",
  "        if kind is dict:",
  "            start = '\\x7b' + (self.indent - 1) * ' '",
  "            return start + self._entries(",
  "                self._pairs(value), indent, allowance + 1, level) + '\\x7d'",
  "        if kind is list:",
  "            return '[' + self._items(value, indent, allowance + 1, level) + ']'",
  "        if kind is tuple:",
  "            end = ',)' if len(value) == 1 else ')'",
  "            return '(' + self._items(value, indent, allowance + len(end), level) + end",
  "        if kind in (set, frozenset) and value:",
  "            start = '\\x7b' if kind is set else 'frozenset(\\x7b'",
  "            end = '\\x7d' if kind is set else '\\x7d)'",
  "            items = sorted(value, key=_key)"]

def layingOutEntries : List String := [
  "            return start + self._items(",
  "                items, indent + len(start) - 1, allowance + len(end), level) + end",
  "        if kind is str:",
  "            return self._words(value, indent, allowance, level)",
  "        return plain",
  "    def _entries(self, pairs, indent, allowance, level):",
  "        indent += self.indent",
  "        lines = []",
  "        for place, (key, value) in enumerate(pairs):",
  "            last = place == len(pairs) - 1",
  "            name = self._plain(key, level + 1) + ': '",
  "            lines.append(name + self._text(",
  "                value, indent + len(name), allowance if last else 1, level + 1))",
  "        return (',\\n' + ' ' * indent).join(lines)",
  "    def _items(self, items, indent, allowance, level):",
  "        indent += self.indent",
  "        front = (self.indent - 1) * ' '",
  "        gap = ',\\n' + ' ' * indent",
  "        items = list(items)",
  "        if not self.compact:",
  "            last = len(items) - 1",
  "            return front + gap.join(",
  "                self._text(item, indent, allowance if place == last else 1, level + 1)",
  "                for place, item in enumerate(items))",
  "        width = room = self.width - indent + 1",
  "        result, mark = front, ''",
  "        for place, item in enumerate(items):",
  "            if place == len(items) - 1:",
  "                room -= allowance",
  "                width -= allowance",
  "            plain = self._plain(item, level + 1)",
  "            needed = len(plain) + 2",
  "            if room < needed:",
  "                room = width",
  "                if mark:",
  "                    mark = gap"]

def layingOutWords : List String := [
  "            if room >= needed:",
  "                room -= needed",
  "                result += mark + plain",
  "                mark = ', '",
  "                continue",
  "            result += mark + self._text(",
  "                item, indent, allowance if place == len(items) - 1 else 1, level + 1)",
  "            mark = gap",
  "            room = 0",
  "        return result",
  "    def _words(self, text, indent, allowance, level):",
  "        import re",
  "        lines = text.splitlines(True)",
  "        parts = []",
  "        if level == 1:",
  "            indent += 1",
  "            allowance += 1",
  "        widest = self.width - indent",
  "        for place, line in enumerate(lines):",
  "            last_line = place == len(lines) - 1",
  "            room = widest - allowance if last_line else widest",
  "            if len(repr(line)) <= room:",
  "                parts.append(repr(line))",
  "                continue",
  "            words = re.findall(r'\\S*\\s*', line)[:-1] or [line]",
  "            current = ''",
  "            for number, word in enumerate(words):",
  "                room = widest",
  "                if number == len(words) - 1 and last_line:",
  "                    room -= allowance",
  "                if len(repr(current + word)) > room:",
  "                    if current:",
  "                        parts.append(repr(current))",
  "                    current = word",
  "                else:",
  "                    current += word",
  "            if current:",
  "                parts.append(repr(current))",
  "        if len(parts) == 1:",
  "            return parts[0]",
  "        joined = ('\\n' + ' ' * indent).join(parts)",
  "        return '(' + joined + ')' if level == 1 else joined"]

def layingOutPformat : List String := [
  "def pformat(value, indent=1, width=80, depth=None, *, compact=False, sort_dicts=True,",
  "            underscore_numbers=False):",
  "    return PrettyPrinter(indent, width, depth, compact=compact, sort_dicts=sort_dicts,",
  "                         underscore_numbers=underscore_numbers).pformat(value)",
  "def pprint(value, stream=None, indent=1, width=80, depth=None, *, compact=False,",
  "           sort_dicts=True, underscore_numbers=False):",
  "    PrettyPrinter(indent, width, depth, stream, compact=compact, sort_dicts=sort_dicts,",
  "                  underscore_numbers=underscore_numbers).pprint(value)",
  "def pp(value, *args, sort_dicts=False, **named):",
  "    pprint(value, *args, sort_dicts=sort_dicts, **named)",
  "def saferepr(value):",
  "    return PrettyPrinter()._plain(value)"]

def layingOut : List String :=
  layingOutKey ++ layingOutPlain ++ layingOutEntries ++ layingOutWords ++ layingOutPformat

/-! Digests. -/

def digestsHash : List String := [
  "algorithms_guaranteed = set(['md5', 'sha1', 'sha224', 'sha256', 'sha384', 'sha512'])",
  "algorithms_available = algorithms_guaranteed",
  "_sizes = dict(md5=16, sha1=20, sha224=28, sha256=32, sha384=48, sha512=64)",
  "class _Hash:",
  "    def __init__(self, name, data=b''):",
  "        self.name = name",
  "        self.digest_size = _sizes[name]",
  "        self.block_size = 128 if name in ('sha384', 'sha512') else 64",
  "        self._data = bytes(data)",
  "    def update(self, data):",
  "        if isinstance(data, str):",
  "            raise TypeError('Strings must be encoded before hashing')",
  "        self._data += bytes(data)",
  "    def digest(self):",
  "        return _digest(self.name, self._data)",
  "    def hexdigest(self):",
  "        return self.digest().hex()",
  "    def copy(self):",
  "        return _Hash(self.name, self._data)"]

def digestsNew : List String := [
  "def new(name, data=b'', *, usedforsecurity=True):",
  "    name = name.lower().replace('-', '')",
  "    if name not in _sizes:",
  "        raise ValueError('unsupported hash type ' + name)",
  "    made = _Hash(name)",
  "    made.update(data)",
  "    return made",
  "def _named(name):",
  "    def make(data=b'', *, usedforsecurity=True):",
  "        return new(name, data)",
  "    return make",
  "md5, sha1, sha224, sha256, sha384, sha512 = map(",
  "    _named, ['md5', 'sha1', 'sha224', 'sha256', 'sha384', 'sha512'])"]

def digestsFileDigest : List String := [
  "def file_digest(file, name):",
  "    made = name() if callable(name) else new(name)",
  "    made.update(file.read())",
  "    return made"]

def digests : List String :=
  digestsHash ++ digestsNew ++ digestsFileDigest

/-! Other alphabets. -/

def alphabetsOctets : List String := [
  "import re, binascii",
  "def _octets(text):",
  "    return text.encode('ascii') if isinstance(text, str) else bytes(text)",
  "def b64encode(data, altchars=None):",
  "    made = _encode(64, bytes(data))",
  "    if altchars is not None:",
  "        made = made.translate(bytes.maketrans(b'+/', _octets(altchars)))",
  "    return made",
  "def _padding():",
  "    raise binascii.Error('Incorrect padding')",
  "def b64decode(text, altchars=None, validate=False):",
  "    text = _octets(text)",
  "    if altchars is not None:",
  "        text = text.translate(bytes.maketrans(_octets(altchars), b'+/'))",
  "    if validate and not re.fullmatch(b'[A-Za-z0-9+/]*=*', text):",
  "        raise binascii.Error('Only base64 data is allowed')",
  "    digits = re.sub(b'[^A-Za-z0-9+/=]', b'', text)",
  "    size = len(digits.rstrip(b'='))",
  "    if size % 4 == 1:",
  "        raise binascii.Error('Invalid base64-encoded string: number of data characters (%d) '",
  "                             'cannot be 1 more than a multiple of 4' % size)",
  "    if len(digits) < (size + 3) // 4 * 4:",
  "        _padding()",
  "    return _decode(64, digits[:size] + b'=' * (-size % 4))"]

def alphabetsUrlsafeB64encode : List String := [
  "standard_b64encode, standard_b64decode = b64encode, b64decode",
  "def urlsafe_b64encode(data):",
  "    return b64encode(data, b'-_')",
  "def urlsafe_b64decode(text):",
  "    return b64decode(text, b'-_')",
  "def encodebytes(data):",
  "    made = b''",
  "    for place in range(0, len(data), 57):",
  "        made += b64encode(data[place:place + 57]) + b'\\n'",
  "    return made",
  "def decodebytes(data):",
  "    return b64decode(data)"]

def alphabetsB32encode : List String := [
  "def b32encode(data):",
  "    return _encode(32, bytes(data))",
  "def b32decode(text, casefold=False, map01=None):",
  "    text = _octets(text)",
  "    made = _decode(32, text.upper() if casefold else text)",
  "    if made is None:",
  "        _padding()",
  "    return made",
  "def b16encode(data):",
  "    return bytes(data).hex().upper().encode()",
  "def b16decode(text, casefold=False):",
  "    return bytes.fromhex(_octets(text).decode())"]

def alphabets : List String :=
  alphabetsOctets ++ alphabetsUrlsafeB64encode ++ alphabetsB32encode

/-! Octets of numbers. -/

def layoutsItems : List String := [
  "_sizes = dict(x=1, c=1, b=1, B=1, h=2, H=2, i=4, I=4, l=8, L=8, q=8, Q=8, n=8, N=8, f=4,",
  "              d=8, s=1, p=1, P=8)",
  "_sizes['?'] = 1",
  "def _items(format):",
  "    if isinstance(format, bytes):",
  "        format = format.decode()",
  "    native = format[:1] not in ('<', '>', '!', '=')",
  "    order = 'big' if format[:1] in ('>', '!') else 'little'",
  "    if format[:1] in '<>!=@':",
  "        format = format[1:]",
  "    aligned = native",
  "    items = []",
  "    count = ''",
  "    place = 0",
  "    for c in format:",
  "        if c.isspace():",
  "            continue",
  "        if c.isdigit():",
  "            count += c",
  "            continue",
  "        if c not in _sizes:",
  "            raise error('bad char in struct format')",
  "        size = _sizes[c] if native or c not in 'lL' else 4",
  "        if aligned and c not in 'xcbB?sp':",
  "            gap = -place % size",
  "            if gap:",
  "                items.append(('x', gap, 1))",
  "                place += gap",
  "        number = int(count) if count else 1",
  "        count = ''",
  "        items.append((c, number, size))",
  "        place += number * size",
  "    return order, items"]

def layoutsCalcsize : List String := [
  "def calcsize(format):",
  "    return sum(number * size for _, number, size in _items(format)[1])",
  "def pack(format, *values):",
  "    order, items = _items(format)",
  "    values = list(values)",
  "    wanted = sum(1 if c in 'sp' else 0 if c == 'x' else number for c, number, _ in items)",
  "    if len(values) != wanted:",
  "        raise error('pack expected %d items for packing (got %d)' % (wanted, len(values)))",
  "    made = b''",
  "    for c, number, size in items:",
  "        if c == 'x':",
  "            made += bytes(number)",
  "        elif c in 'sp':",
  "            made += values.pop(0)[:number].ljust(number, b'\\x00')",
  "        else:",
  "            for _ in range(number):",
  "                made += _one(c, size, order, values.pop(0))",
  "    return made"]

def layoutsOne : List String := [
  "def _one(c, size, order, value):",
  "    if c == 'c':",
  "        return value",
  "    if c == '?':",
  "        return b'\\x01' if value else b'\\x00'",
  "    if c in 'fd':",
  "        return _real_octets(float(value), size, order)",
  "    if not hasattr(value, '__index__') and not isinstance(value, int):",
  "        raise error('required argument is not an integer')",
  "    try:",
  "        return int(value).to_bytes(size, order, signed=c in 'bhilqn')",
  "    except OverflowError:",
  "        bits = 8 * size - (1 if c in 'bhilqn' else 0)",
  "        low = -(1 << bits) if c in 'bhilqn' else 0",
  "        raise error(\"'%s' format requires %d <= number <= %d\" % (",
  "            c, low, (1 << bits) - 1)) from None"]

def layoutsUnpackFrom : List String := [
  "def unpack_from(format, buffer, offset=0):",
  "    order, items = _items(format)",
  "    buffer = bytes(buffer)",
  "    values = []",
  "    place = offset",
  "    for c, number, size in items:",
  "        if c == 'x':",
  "            place += number",
  "        elif c in 'sp':",
  "            values.append(buffer[place:place + number])",
  "            place += number",
  "        else:",
  "            for _ in range(number):",
  "                part = buffer[place:place + size]",
  "                place += size",
  "                if c == 'c':",
  "                    values.append(part)",
  "                elif c == '?':",
  "                    values.append(part != b'\\x00')",
  "                elif c in 'fd':",
  "                    values.append(_octets_real(part, order))",
  "                else:",
  "                    values.append(int.from_bytes(part, order, signed=c in 'bhilqn'))",
  "    return tuple(values)"]

def layoutsUnpack : List String := [
  "def unpack(format, buffer):",
  "    size = calcsize(format)",
  "    if len(buffer) != size:",
  "        raise error('unpack requires a buffer of %d bytes' % size)",
  "    return unpack_from(format, buffer)",
  "def iter_unpack(format, buffer):",
  "    size = calcsize(format)",
  "    for place in range(0, len(buffer), size):",
  "        yield unpack_from(format, buffer, place)",
  "def pack_into(format, buffer, offset, *values):",
  "    data = pack(format, *values)",
  "    buffer[offset:offset + len(data)] = data"]

def layoutsStruct : List String := [
  "class Struct:",
  "    def __init__(self, format):",
  "        self.format = format",
  "        self.size = calcsize(format)",
  "    def pack(self, *values):",
  "        return pack(self.format, *values)",
  "    def unpack(self, buffer):",
  "        return unpack(self.format, buffer)",
  "    def unpack_from(self, buffer, offset=0):",
  "        return unpack_from(self.format, buffer, offset)"]

def layouts : List String :=
  layoutsItems ++ layoutsCalcsize ++ layoutsOne ++ layoutsUnpackFrom ++ layoutsUnpack ++
    layoutsStruct

/-! Chances. -/

def chancesRandom : List String := [
  "import math as _math, os as _os",
  "class Random:",
  "    def __init__(self, x=None):",
  "        self.seed(x)",
  "    def seed(self, a=None, version=2):",
  "        if a is None:",
  "            a = int.from_bytes(_os.urandom(8), 'big')",
  "        elif isinstance(a, (str, bytes, bytearray)):",
  "            import hashlib",
  "            if isinstance(a, str):",
  "                a = a.encode()",
  "            a = int.from_bytes(a + hashlib.sha512(a).digest(), 'big')",
  "        elif isinstance(a, float):",
  "            a = hash(a)",
  "        self._place = _seeded(abs(a))",
  "    def getrandbits(self, k):",
  "        return _bits(self._place, k)",
  "    def random(self):",
  "        return _real(self._place)",
  "    def _below(self, n):",
  "        k = n.bit_length()",
  "        r = self.getrandbits(k)",
  "        while r >= n:",
  "            r = self.getrandbits(k)",
  "        return r",
  "    def randrange(self, start, stop=None, step=1):",
  "        if stop is None:",
  "            start, stop = 0, start",
  "        size = len(range(start, stop, step))",
  "        if size <= 0:",
  "            if step == 1:",
  "                raise ValueError('empty range in randrange(%d, %d)' % (start, stop))",
  "            raise ValueError('empty range in randrange(%d, %d, %d)' % (start, stop, step))",
  "        return start + step * self._below(size)",
  "    def randint(self, a, b):",
  "        return self.randrange(a, b + 1)"]

def chancesRandbytes : List String := [
  "    def randbytes(self, n):",
  "        return self.getrandbits(n * 8).to_bytes(n, 'little')",
  "    def choice(self, seq):",
  "        if not len(seq):",
  "            raise IndexError('Cannot choose from an empty sequence')",
  "        return seq[self._below(len(seq))]",
  "    def shuffle(self, x):",
  "        for i in reversed(range(1, len(x))):",
  "            j = self._below(i + 1)",
  "            x[i], x[j] = x[j], x[i]",
  "    def sample(self, population, k, *, counts=None):",
  "        if counts is not None:",
  "            population = [v for v, c in zip(population, counts) for _ in range(c)]",
  "        n = len(population)",
  "        if not 0 <= k <= n:",
  "            raise ValueError('Sample larger than population or is negative')",
  "        result = [None] * k",
  "        setsize = 21",
  "        if k > 5:",
  "            setsize += 4 ** _math.ceil(_math.log(k * 3, 4))",
  "        if n <= setsize:",
  "            pool = list(population)",
  "            for i in range(k):",
  "                j = self._below(n - i)",
  "                result[i] = pool[j]",
  "                pool[j] = pool[n - i - 1]",
  "        else:",
  "            selected = set()",
  "            for i in range(k):",
  "                j = self._below(n)",
  "                while j in selected:",
  "                    j = self._below(n)",
  "                selected.add(j)",
  "                result[i] = population[j]",
  "        return result"]

def chancesChoices : List String := [
  "    def choices(self, population, weights=None, *, cum_weights=None, k=1):",
  "        n = len(population)",
  "        if cum_weights is None:",
  "            if weights is None:",
  "                return [population[_math.floor(self.random() * n)] for _ in range(k)]",
  "            cum_weights = []",
  "            total = 0",
  "            for weight in weights:",
  "                total += weight",
  "                cum_weights.append(total)",
  "        import bisect",
  "        total = cum_weights[-1] + 0.0",
  "        return [population[bisect.bisect(cum_weights, self.random() * total, 0, n - 1)]",
  "                for _ in range(k)]",
  "    def uniform(self, a, b):",
  "        return a + (b - a) * self.random()",
  "    def triangular(self, low=0.0, high=1.0, mode=None):",
  "        u = self.random()",
  "        c = 0.5 if mode is None else (mode - low) / (high - low)",
  "        if u > c:",
  "            u = 1.0 - u",
  "            c = 1.0 - c",
  "            low, high = high, low",
  "        return low + (high - low) * _math.sqrt(u * c)",
  "    def expovariate(self, lambd=1.0):",
  "        return -_math.log(1.0 - self.random()) / lambd",
  "    _next = None",
  "    def gauss(self, mu=0.0, sigma=1.0):",
  "        z = self._next",
  "        self._next = None",
  "        if z is None:",
  "            x2pi = self.random() * 2.0 * _math.pi",
  "            g2rad = _math.sqrt(-2.0 * _math.log(1.0 - self.random()))",
  "            z = _math.cos(x2pi) * g2rad",
  "            self._next = _math.sin(x2pi) * g2rad",
  "        return mu + z * sigma",
  "    def normalvariate(self, mu=0.0, sigma=1.0):",
  "        magic = 4 * _math.exp(-0.5) / _math.sqrt(2.0)",
  "        while True:",
  "            u1 = self.random()",
  "            u2 = 1.0 - self.random()",
  "            z = magic * (u1 - 0.5) / u2",
  "            if z * z / 4.0 <= -_math.log(u2):",
  "                return mu + z * sigma"]

def chancesSystemRandom : List String := [
  "class SystemRandom(Random):",
  "    pass",
  "_inst = Random()",
  "seed, random, randint, randrange = _inst.seed, _inst.random, _inst.randint, _inst.randrange",
  "choice, choices, shuffle, sample = _inst.choice, _inst.choices, _inst.shuffle, _inst.sample",
  "uniform, gauss, normalvariate, triangular = (",
  "    _inst.uniform, _inst.gauss, _inst.normalvariate, _inst.triangular)",
  "getrandbits, randbytes, expovariate = _inst.getrandbits, _inst.randbytes, _inst.expovariate"]

def chances : List String :=
  chancesRandom ++ chancesRandbytes ++ chancesChoices ++ chancesSystemRandom

/-! Moments. -/

def momentsYmd : List String := [
  "import time as _time",
  "MINYEAR, MAXYEAR = 1, 9999",
  "def _ymd(days):",
  "    days += 306",
  "    year = (10000 * days + 14780) // 3652425",
  "    rest = days - (365 * year + year // 4 - year // 100 + year // 400)",
  "    if rest < 0:",
  "        year -= 1",
  "        rest = days - (365 * year + year // 4 - year // 100 + year // 400)",
  "    month = (100 * rest + 52) // 3060",
  "    return (year + (month + 2) // 12, (month + 2) % 12 + 1,",
  "            rest - (month * 306 + 5) // 10 + 1)"]

def momentsDays : List String := [
  "def _days(year, month, day):",
  "    month = (month + 9) % 12",
  "    year = year - month // 10",
  "    start = 365 * year + year // 4 - year // 100 + year // 400",
  "    return start + (month * 306 + 5) // 10 + day - 307",
  "def _leap(year):",
  "    return year % 4 == 0 and (year % 100 != 0 or year % 400 == 0)",
  "def _last(year, month):",
  "    return [31, 29 if _leap(year) else 28, 31, 30, 31, 30, 31, 31, 30, 31, 30, 31][month - 1]",
  "def _offset(delta, colon=':'):",
  "    if delta is None:",
  "        return ''",
  "    seconds = delta.days * 86400 + delta.seconds",
  "    sign = '-' if seconds < 0 else '+'",
  "    hours, rest = divmod(abs(seconds), 3600)",
  "    minutes, seconds = divmod(rest, 60)",
  "    text = '%s%02d%s%02d' % (sign, hours, colon, minutes)",
  "    return text + '%s%02d' % (colon, seconds) if seconds else text"]

def momentsTimedelta : List String := [
  "class timedelta:",
  "    def __init__(self, days=0, seconds=0, microseconds=0, milliseconds=0, minutes=0, hours=0,",
  "                 weeks=0):",
  "        total = (days + 7 * weeks) * 86400 + hours * 3600 + minutes * 60 + seconds",
  "        micros = round(total * 1000000 + milliseconds * 1000 + microseconds)",
  "        self.days, rest = divmod(micros, 86400000000)",
  "        self.seconds, self.microseconds = divmod(rest, 1000000)",
  "    def _micros(self):",
  "        return (self.days * 86400 + self.seconds) * 1000000 + self.microseconds",
  "    def total_seconds(self):",
  "        return self._micros() / 1000000",
  "    def __add__(self, other):",
  "        if not isinstance(other, timedelta):",
  "            return NotImplemented",
  "        return timedelta(microseconds=self._micros() + other._micros())",
  "    def __sub__(self, other):",
  "        if not isinstance(other, timedelta):",
  "            return NotImplemented",
  "        return timedelta(microseconds=self._micros() - other._micros())",
  "    def __mul__(self, factor):",
  "        return timedelta(microseconds=self._micros() * factor)",
  "    __rmul__ = __mul__",
  "    def __truediv__(self, other):",
  "        if isinstance(other, timedelta):",
  "            return self._micros() / other._micros()",
  "        return timedelta(microseconds=self._micros() / other)",
  "    def __floordiv__(self, other):",
  "        if isinstance(other, timedelta):",
  "            return self._micros() // other._micros()",
  "        return timedelta(microseconds=self._micros() // other)",
  "    def __mod__(self, other):",
  "        return timedelta(microseconds=self._micros() % other._micros())",
  "    def __neg__(self):",
  "        return timedelta(microseconds=-self._micros())",
  "    def __abs__(self):",
  "        return timedelta(microseconds=abs(self._micros()))"]

def momentsMore : List String := [
  "    def __bool__(self):",
  "        return self._micros() != 0",
  "    def __eq__(self, other):",
  "        return isinstance(other, timedelta) and self._micros() == other._micros()",
  "    def __lt__(self, other):",
  "        return self._micros() < other._micros()",
  "    def __le__(self, other):",
  "        return self._micros() <= other._micros()",
  "    def __gt__(self, other):",
  "        return self._micros() > other._micros()",
  "    def __ge__(self, other):",
  "        return self._micros() >= other._micros()",
  "    def __hash__(self):",
  "        return hash(self._micros())",
  "    def __str__(self):",
  "        minutes, seconds = divmod(self.seconds, 60)",
  "        text = '%d:%02d:%02d' % (minutes // 60, minutes % 60, seconds)",
  "        if self.days:",
  "            text = '%d day%s, %s' % (self.days, '' if abs(self.days) == 1 else 's', text)",
  "        return text + '.%06d' % self.microseconds if self.microseconds else text",
  "    def __repr__(self):",
  "        parts = ['%s=%d' % (name, getattr(self, name))",
  "                 for name in ('days', 'seconds', 'microseconds') if getattr(self, name)]",
  "        return 'datetime.timedelta(%s)' % (', '.join(parts) or '0')"]

def momentsTzinfo : List String := [
  "class tzinfo:",
  "    pass",
  "class timezone(tzinfo):",
  "    def __init__(self, offset, name=None):",
  "        self._offset = offset",
  "        self._name = name",
  "    def utcoffset(self, moment=None):",
  "        return self._offset",
  "    def tzname(self, moment=None):",
  "        if self._name is not None:",
  "            return self._name",
  "        return 'UTC' + _offset(self._offset) if self._offset else 'UTC'",
  "    def dst(self, moment=None):",
  "        return None",
  "    def __eq__(self, other):",
  "        return isinstance(other, timezone) and self._offset == other._offset",
  "    def __hash__(self):",
  "        return hash(self._offset)",
  "    def __str__(self):",
  "        return self.tzname()",
  "    def __repr__(self):",
  "        if not self._offset and self._name is None:",
  "            return 'datetime.timezone.utc'",
  "        return 'datetime.timezone(%r)' % self._offset"]

def momentsOrdered : List String := [
  "timezone.utc = timezone(timedelta(0))",
  "UTC = timezone.utc",
  "class _Ordered:",
  "    def __eq__(self, other):",
  "        return self.__class__ is other.__class__ and self._key() == other._key()",
  "    def __lt__(self, other):",
  "        return self._key() < other._key()",
  "    def __le__(self, other):",
  "        return self._key() <= other._key()",
  "    def __gt__(self, other):",
  "        return self._key() > other._key()",
  "    def __ge__(self, other):",
  "        return self._key() >= other._key()",
  "    def __hash__(self):",
  "        return hash(self._key())",
  "    def __str__(self):",
  "        return self.isoformat()",
  "    def __format__(self, format):",
  "        return self.strftime(format) if format else str(self)"]

def momentsDate : List String := [
  "class date(_Ordered):",
  "    def __init__(self, year, month, day):",
  "        if not 1 <= year <= 9999:",
  "            raise ValueError('year %d is out of range' % year)",
  "        if not 1 <= month <= 12:",
  "            raise ValueError('month must be in 1..12')",
  "        if not 1 <= day <= _last(year, month):",
  "            raise ValueError('day is out of range for month')",
  "        self.year, self.month, self.day = year, month, day",
  "    def _key(self):",
  "        return (self.year, self.month, self.day)",
  "    @classmethod",
  "    def today(cls):",
  "        return cls.fromtimestamp(_time.time())",
  "    @classmethod",
  "    def fromtimestamp(cls, stamp):",
  "        return cls(*_time.localtime(stamp)[:3])",
  "    @classmethod",
  "    def fromordinal(cls, number):",
  "        return cls(*_ymd(number - 1))",
  "    @classmethod",
  "    def fromisoformat(cls, text):",
  "        try:",
  "            if len(text) == 8:",
  "                return cls(int(text[:4]), int(text[4:6]), int(text[6:]))",
  "            year, month, day = text.split('-')",
  "            return cls(int(year), int(month), int(day))",
  "        except ValueError:",
  "            raise ValueError('Invalid isoformat string: %r' % text) from None",
  "    def toordinal(self):",
  "        return _days(self.year, self.month, self.day) + 1",
  "    def weekday(self):",
  "        return (self.toordinal() + 6) % 7",
  "    def isoweekday(self):",
  "        return self.toordinal() % 7 or 7"]

def momentsIsocalendar : List String := [
  "    def isocalendar(self):",
  "        thursday = date.fromordinal(self.toordinal() + 4 - self.isoweekday())",
  "        start = date(thursday.year, 1, 1).toordinal()",
  "        return (thursday.year, (thursday.toordinal() - start) // 7 + 1, self.isoweekday())",
  "    def timetuple(self):",
  "        return self._tuple(0, 0, 0)",
  "    def _tuple(self, hour, minute, second):",
  "        start = date(self.year, 1, 1).toordinal()",
  "        number = date(self.year, self.month, self.day).toordinal()",
  "        return (self.year, self.month, self.day, hour, minute, second, (number + 6) % 7,",
  "                number - start + 1, -1)",
  "    def replace(self, year=None, month=None, day=None):",
  "        return date(year or self.year, month or self.month, day or self.day)",
  "    def isoformat(self):",
  "        return '%04d-%02d-%02d' % (self.year, self.month, self.day)",
  "    def strftime(self, format):",
  "        return _time.strftime(format, self.timetuple())",
  "    def ctime(self):",
  "        return self.strftime('%a %b %e %H:%M:%S %Y')",
  "    def __add__(self, delta):",
  "        return date.fromordinal(self.toordinal() + delta.days)",
  "    __radd__ = __add__",
  "    def __sub__(self, other):",
  "        if isinstance(other, timedelta):",
  "            return date.fromordinal(self.toordinal() - other.days)",
  "        return timedelta(self.toordinal() - other.toordinal())",
  "    def __repr__(self):",
  "        return 'datetime.date(%d, %d, %d)' % (self.year, self.month, self.day)"]

def momentsTime : List String := [
  "class time(_Ordered):",
  "    def __init__(self, hour=0, minute=0, second=0, microsecond=0, tzinfo=None, *, fold=0):",
  "        self.hour, self.minute, self.second = hour, minute, second",
  "        self.microsecond, self.tzinfo = microsecond, tzinfo",
  "    def _key(self):",
  "        return (self.hour, self.minute, self.second, self.microsecond)",
  "    def isoformat(self, timespec='auto'):",
  "        text = '%02d:%02d:%02d' % (self.hour, self.minute, self.second)",
  "        if timespec == 'milliseconds':",
  "            text += '.%03d' % (self.microsecond // 1000)",
  "        elif timespec == 'microseconds' or timespec == 'auto' and self.microsecond:",
  "            text += '.%06d' % self.microsecond",
  "        elif timespec == 'minutes':",
  "            text = text[:5]",
  "        return text + _offset(self.tzinfo.utcoffset(None) if self.tzinfo else None)",
  "    def strftime(self, format):",
  "        format = format.replace('%f', '%06d' % self.microsecond)",
  "        moment = (1900, 1, 1, self.hour, self.minute, self.second, 0, 1, -1)",
  "        return _time.strftime(format, moment)",
  "    def __repr__(self):",
  "        parts = [self.hour, self.minute]",
  "        if self.second or self.microsecond:",
  "            parts.append(self.second)",
  "        if self.microsecond:",
  "            parts.append(self.microsecond)",
  "        return 'datetime.time(%s)' % ', '.join(map(str, parts))"]

def momentsDatetime : List String := [
  "class datetime(date):",
  "    def __init__(self, year, month, day, hour=0, minute=0, second=0, microsecond=0,",
  "                 tzinfo=None, *, fold=0):",
  "        date.__init__(self, year, month, day)",
  "        if not 0 <= hour <= 23:",
  "            raise ValueError('hour must be in 0..23')",
  "        if not 0 <= minute <= 59:",
  "            raise ValueError('minute must be in 0..59')",
  "        if not 0 <= second <= 59:",
  "            raise ValueError('second must be in 0..59')",
  "        self.hour, self.minute, self.second = hour, minute, second",
  "        self.microsecond, self.tzinfo, self.fold = microsecond, tzinfo, fold",
  "    def _stamp(self):",
  "        return (_days(self.year, self.month, self.day) * 86400 + self.hour * 3600",
  "                + self.minute * 60 + self.second) * 1000000 + self.microsecond",
  "    def _key(self):",
  "        offset = self.utcoffset()",
  "        return self._stamp() - (offset._micros() if offset is not None else 0)",
  "    @classmethod",
  "    def _of(cls, stamp, tz=None):",
  "        seconds, micros = divmod(stamp, 1000000)",
  "        days, seconds = divmod(seconds, 86400)",
  "        year, month, day = _ymd(days)",
  "        minutes, seconds = divmod(seconds, 60)",
  "        return cls(year, month, day, minutes // 60, minutes % 60, seconds, micros, tz)",
  "    @classmethod",
  "    def fromtimestamp(cls, stamp, tz=None):",
  "        micros = round(stamp * 1000000) + 719162 * 86400000000",
  "        if tz is not None:",
  "            micros += tz.utcoffset(None)._micros()",
  "        return cls._of(micros, tz)",
  "    @classmethod",
  "    def utcfromtimestamp(cls, stamp):",
  "        return cls.fromtimestamp(stamp)"]

def momentsNow : List String := [
  "    @classmethod",
  "    def now(cls, tz=None):",
  "        return cls.fromtimestamp(_time.time(), tz)",
  "    @classmethod",
  "    def utcnow(cls):",
  "        return cls.now()",
  "    today = utcnow",
  "    @classmethod",
  "    def combine(cls, day, moment, tzinfo=None):",
  "        return cls(day.year, day.month, day.day, moment.hour, moment.minute, moment.second,",
  "                   moment.microsecond, tzinfo or moment.tzinfo)",
  "    @classmethod",
  "    def fromisoformat(cls, text):",
  "        import re",
  "        found = re.fullmatch(",
  "            r'(\\d+)-?(\\d\\d)-?(\\d\\d)'",
  "            r'(?:[T ](\\d\\d)(?::?(\\d\\d)(?::?(\\d\\d)(?:[.,](\\d+))?)?)?)?'",
  "            r'(Z|[+-]\\d\\d:?\\d\\d)?', text)",
  "        if found is None:",
  "            raise ValueError('Invalid isoformat string: %r' % text)",
  "        numbers = [int(part or 0) for part in found.groups()[:6]]",
  "        micros = int(((found.group(7) or '') + '000000')[:6])",
  "        return cls(*numbers, micros, _zone(found.group(8)))",
  "    @classmethod",
  "    def strptime(cls, text, format):",
  "        return cls(*_parsed(text, format))",
  "    def utcoffset(self):",
  "        return None if self.tzinfo is None else self.tzinfo.utcoffset(self)",
  "    def tzname(self):",
  "        return None if self.tzinfo is None else self.tzinfo.tzname(self)",
  "    def timestamp(self):",
  "        return (self._key() - 719162 * 86400000000) / 1000000",
  "    def date(self):",
  "        return _date(self.year, self.month, self.day)",
  "    def time(self):",
  "        return time(self.hour, self.minute, self.second, self.microsecond)"]

def momentsTimetuple : List String := [
  "    def timetuple(self):",
  "        return self._tuple(self.hour, self.minute, self.second)",
  "    utctimetuple = timetuple",
  "    def astimezone(self, tz=None):",
  "        tz = tz or UTC",
  "        return self._of(self._key() + tz.utcoffset(self)._micros(), tz)",
  "    def replace(self, year=None, month=None, day=None, hour=None, minute=None, second=None,",
  "                microsecond=None, tzinfo=True, *, fold=0):",
  "        def pick(value, usual):",
  "            return usual if value is None else value",
  "        return self.__class__(",
  "            pick(year, self.year), pick(month, self.month), pick(day, self.day),",
  "            pick(hour, self.hour), pick(minute, self.minute), pick(second, self.second),",
  "            pick(microsecond, self.microsecond), self.tzinfo if tzinfo is True else tzinfo)",
  "    def isoformat(self, sep='T', timespec='auto'):",
  "        moment = time(self.hour, self.minute, self.second, self.microsecond)",
  "        text = date.isoformat(self) + sep + moment.isoformat(timespec)",
  "        return text + _offset(self.utcoffset())",
  "    def strftime(self, format):",
  "        format = format.replace('%f', '%06d' % self.microsecond)",
  "        format = format.replace('%z', _offset(self.utcoffset(), ''))",
  "        format = format.replace('%Z', self.tzname() or '')",
  "        return _time.strftime(format, self.timetuple())",
  "    def __str__(self):",
  "        return self.isoformat(' ')",
  "    def __add__(self, delta):",
  "        if not isinstance(delta, timedelta):",
  "            return NotImplemented",
  "        return self._of(self._stamp() + delta._micros(), self.tzinfo)",
  "    __radd__ = __add__",
  "    def __sub__(self, other):",
  "        if isinstance(other, timedelta):",
  "            return self._of(self._stamp() - other._micros(), self.tzinfo)",
  "        return timedelta(microseconds=self._key() - other._key())",
  "    def __repr__(self):",
  "        parts = [self.year, self.month, self.day, self.hour, self.minute]",
  "        if self.second or self.microsecond:",
  "            parts.append(self.second)",
  "        if self.microsecond:",
  "            parts.append(self.microsecond)",
  "        more = ', tzinfo=%r' % self.tzinfo if self.tzinfo is not None else ''",
  "        return 'datetime.datetime(%s%s)' % (', '.join(map(str, parts)), more)"]

def momentsZone : List String := [
  "_date = date",
  "def _zone(text):",
  "    if not text:",
  "        return None",
  "    if text == 'Z':",
  "        return UTC",
  "    digits = text[1:].replace(':', '')",
  "    delta = timedelta(hours=int(digits[:2]), minutes=int(digits[2:4]))",
  "    return timezone(-delta if text[0] == '-' else delta)",
  "_months = ['jan', 'feb', 'mar', 'apr', 'may', 'jun', 'jul', 'aug', 'sep', 'oct', 'nov', 'dec']",
  "_marks = dict(",
  "    Y=r'\\d\\d\\d\\d', m=r'\\d\\d?', d=r'\\d\\d?', H=r'\\d\\d?', M=r'\\d\\d?', S=r'\\d\\d?',",
  "    f=r'\\d+', y=r'\\d\\d', j=r'\\d+', b=r'[A-Za-z]+', B=r'[A-Za-z]+', a=r'[A-Za-z]+',",
  "    A=r'[A-Za-z]+', p=r'[AaPp][Mm]',",
  "    I=r'\\d\\d?', z=r'[+-]\\d\\d:?\\d\\d|Z', Z=r'[A-Za-z]*')"]

def momentsParsed : List String := [
  "def _parsed(text, format):",
  "    import re",
  "    whole = dict([('T', '%H:%M:%S'), ('D', '%m/%d/%y'), ('F', '%Y-%m-%d'), ('R', '%H:%M')])",
  "    for letter, long in whole.items():",
  "        format = format.replace('%' + letter, long)",
  "    pattern = ''",
  "    letters = []",
  "    place = 0",
  "    while place < len(format):",
  "        c = format[place]",
  "        place += 1",
  "        if c == '%':",
  "            letter = format[place]",
  "            place += 1",
  "            if letter == '%':",
  "                pattern += '%'",
  "            elif letter not in _marks:",
  "                raise ValueError('%r is a bad directive in format %r' % (letter, format))",
  "            else:",
  "                letters.append(letter)",
  "                pattern += '(' + _marks[letter] + ')'",
  "        elif c.isspace():",
  "            pattern += r'\\s+'",
  "        else:",
  "            pattern += re.escape(c)",
  "    found = re.match(pattern, text)",
  "    if found is None:",
  "        raise ValueError('time data %r does not match format %r' % (text, format))",
  "    if found.end() != len(text):",
  "        raise ValueError('unconverted data remains: %s' % text[found.end():])",
  "    parts = dict(zip(letters, found.groups()))",
  "    year = int(parts.get('Y', 1900))",
  "    if 'y' in parts:",
  "        year = int(parts['y'])",
  "        year += 2000 if year < 69 else 1900",
  "    month = int(parts.get('m', 1))"]

def momentsRest : List String := [
  "    name = parts.get('b') or parts.get('B')",
  "    if name:",
  "        month = _months.index(name[:3].lower()) + 1",
  "    hour = int(parts.get('H', 0))",
  "    if 'I' in parts:",
  "        hour = int(parts['I']) % 12 + (12 if parts.get('p', 'am').lower() == 'pm' else 0)",
  "    micros = int((parts.get('f', '') + '000000')[:6])",
  "    return (year, month, int(parts.get('d', 1)), hour, int(parts.get('M', 0)),",
  "            int(parts.get('S', 0)), micros, _zone(parts.get('z')))"]

def momentsRestRest : List String := [
  "date.min, date.max = date(1, 1, 1), date(9999, 12, 31)",
  "datetime.min, datetime.max = datetime(1, 1, 1), datetime(9999, 12, 31, 23, 59, 59, 999999)"]

def moments : List String :=
  momentsYmd ++ momentsDays ++ momentsTimedelta ++ momentsMore ++ momentsTzinfo ++
    momentsOrdered ++ momentsDate ++ momentsIsocalendar ++ momentsTime ++ momentsDatetime ++
    momentsNow ++ momentsTimetuple ++ momentsZone ++ momentsParsed ++ momentsRest ++
    momentsRestRest

end ShaderCost.Script.Indented.Written
