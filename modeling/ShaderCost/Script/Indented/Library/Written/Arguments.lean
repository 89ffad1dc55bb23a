import ShaderCost.Text.Basic

/-!
Parts of the library that are told in the language itself: arguments of programs.
-/

namespace ShaderCost.Script.Indented.Written

/-! Arguments with their help. -/

def argumentsArgumentError : List String := [
  "import os as _os, re as _re, sys as _sys, textwrap as _textwrap",
  "SUPPRESS = '==SUPPRESS=='",
  "OPTIONAL, ZERO_OR_MORE, ONE_OR_MORE, PARSER, REMAINDER = '?', '*', '+', 'A...', '...'",
  "_UNRECOGNIZED_ARGS_ATTR = '_unrecognized_args'",
  "class ArgumentError(Exception):",
  "    def __init__(self, argument, message):",
  "        self.argument_name = _name_of(argument)",
  "        self.message = message",
  "    def __str__(self):",
  "        if self.argument_name is None:",
  "            return self.message",
  "        return 'argument %s: %s' % (self.argument_name, self.message)"]

def argumentsArgumentTypeError : List String := [
  "class ArgumentTypeError(Exception):",
  "    pass",
  "def _name_of(action):",
  "    if action is None:",
  "        return None",
  "    if action.option_strings:",
  "        return '/'.join(action.option_strings)",
  "    if action.metavar not in (None, SUPPRESS):",
  "        return action.metavar",
  "    if action.dest not in (None, SUPPRESS):",
  "        return action.dest",
  "    if action.choices:",
  "        return '\\x7b' + ','.join(map(str, action.choices)) + '\\x7d'",
  "    return None"]

def argumentsNamespace : List String := [
  "class Namespace:",
  "    def __init__(self, **named):",
  "        for name, value in named.items():",
  "            setattr(self, name, value)",
  "    def __eq__(self, other):",
  "        return isinstance(other, Namespace) and vars(self) == vars(other)",
  "    def __contains__(self, key):",
  "        return key in vars(self)",
  "    def __repr__(self):",
  "        pairs = ['%s=%r' % pair for pair in vars(self).items()]",
  "        return 'Namespace(%s)' % ', '.join(pairs)",
  "class HelpFormatter:",
  "    def __init__(self, prog, indent_increment=2, max_help_position=24, width=None):",
  "        self._prog = prog",
  "        self._width = 78 if width is None else width",
  "        self._most = min(max_help_position, max(self._width - 20, 4))",
  "    def _fill_text(self, text, width, indent):",
  "        text = ' '.join(text.split())",
  "        return _textwrap.fill(text, width, initial_indent=indent, subsequent_indent=indent)",
  "    def _split_lines(self, text, width):",
  "        return _textwrap.wrap(' '.join(text.split()), width)",
  "    def _get_default_metavar_for_optional(self, action):",
  "        return action.dest.upper()",
  "    def _get_default_metavar_for_positional(self, action):",
  "        return action.dest",
  "    def _get_help_string(self, action):",
  "        return action.help",
  "    def _metavar(self, action, usual, size=1):",
  "        if action.metavar is not None:",
  "            text = action.metavar",
  "        elif action.choices is not None:",
  "            text = '\\x7b' + ','.join(map(str, action.choices)) + '\\x7d'",
  "        else:",
  "            text = usual",
  "        return text if isinstance(text, tuple) else (text,) * size"]

def argumentsArguments : List String := [
  "    def _arguments(self, action, usual):",
  "        if action.nargs is None:",
  "            return self._metavar(action, usual)[0]",
  "        if action.nargs == OPTIONAL:",
  "            return '[%s]' % self._metavar(action, usual)",
  "        if action.nargs == ZERO_OR_MORE:",
  "            names = self._metavar(action, usual)",
  "            return '[%s [%s ...]]' % names if len(names) == 2 else '[%s ...]' % names",
  "        if action.nargs == ONE_OR_MORE:",
  "            return '%s [%s ...]' % self._metavar(action, usual, 2)",
  "        if action.nargs == REMAINDER:",
  "            return '...'",
  "        if action.nargs == PARSER:",
  "            return '%s ...' % self._metavar(action, usual)",
  "        return ' '.join(self._metavar(action, usual, action.nargs))",
  "    def _invocation(self, action):",
  "        if not action.option_strings:",
  "            return self._metavar(action, self._get_default_metavar_for_positional(action))[0]",
  "        if action.nargs == 0:",
  "            return ', '.join(action.option_strings)",
  "        usual = self._get_default_metavar_for_optional(action)",
  "        text = self._arguments(action, usual)",
  "        return ', '.join('%s %s' % (option, text) for option in action.option_strings)"]

def argumentsParts : List String := [
  "    def _parts(self, actions, groups):",
  "        parts = []",
  "        for action in actions:",
  "            if action.help is SUPPRESS:",
  "                parts.append(None)",
  "            elif not action.option_strings:",
  "                usual = self._get_default_metavar_for_positional(action)",
  "                text = self._arguments(action, usual)",
  "                if any(action in group for group, _ in groups):",
  "                    if text[:1] == '[' and text[-1:] == ']':",
  "                        text = text[1:-1]",
  "                parts.append(text)",
  "            else:",
  "                option = action.option_strings[0]",
  "                if action.nargs == 0:",
  "                    text = action.format_usage()",
  "                else:",
  "                    usual = self._get_default_metavar_for_optional(action)",
  "                    text = '%s %s' % (option, self._arguments(action, usual))",
  "                grouped = any(action in group for group, _ in groups)",
  "                if not action.required and not grouped:",
  "                    text = '[%s]' % text",
  "                parts.append(text)",
  "        result = []",
  "        place = 0",
  "        while place < len(actions):",
  "            for group, required in groups:",
  "                if group and actions[place] is group[0]:",
  "                    shown = [text for text in parts[place:place + len(group)] if text]",
  "                    text = ' | '.join(shown)",
  "                    if required and len(shown) > 1:",
  "                        text = '(%s)' % text",
  "                    elif not required and shown:",
  "                        text = '[%s]' % text",
  "                    result.append(text or None)",
  "                    place += len(group)"]

def argumentsUsage : List String := [
  "                    break",
  "            else:",
  "                result.append(parts[place])",
  "                place += 1",
  "        return [part for part in result if part]",
  "    def _usage(self, usage, actions, groups, front):",
  "        if usage is not None:",
  "            return front + usage % dict(prog=self._prog) + '\\n\\n'",
  "        options = [action for action in actions if action.option_strings]",
  "        places = [action for action in actions if not action.option_strings]",
  "        prog = self._prog",
  "        option_parts = self._parts(options, groups)",
  "        place_parts = self._parts(places, groups)",
  "        usage = ' '.join([prog] + option_parts + place_parts)",
  "        width = self._width",
  "        if len(front) + len(usage) > width:",
  "            option_parts = self._pieces(option_parts)",
  "            place_parts = self._pieces(place_parts)",
  "            def lines(parts, indent, first=None):",
  "                lines = []",
  "                line = []",
  "                size = (len(first) if first is not None else len(indent)) - 1",
  "                for part in parts:",
  "                    if size + 1 + len(part) > width and line:",
  "                        lines.append(indent + ' '.join(line))",
  "                        line = []",
  "                        size = len(indent) - 1",
  "                    line.append(part)",
  "                    size += len(part) + 1",
  "                if line:",
  "                    lines.append(indent + ' '.join(line))",
  "                if first is not None:",
  "                    lines[0] = lines[0][len(indent):]",
  "                return lines",
  "            if len(front) + len(prog) <= 0.75 * width:",
  "                indent = ' ' * (len(front) + len(prog) + 1)"]

def argumentsPieces : List String := [
  "                if option_parts:",
  "                    shown = lines([prog] + option_parts, indent, front)",
  "                    shown.extend(lines(place_parts, indent))",
  "                elif place_parts:",
  "                    shown = lines([prog] + place_parts, indent, front)",
  "                else:",
  "                    shown = [prog]",
  "            else:",
  "                indent = ' ' * len(front)",
  "                parts = option_parts + place_parts",
  "                shown = lines(parts, indent)",
  "                if len(shown) > 1:",
  "                    shown = lines(option_parts, indent) + lines(place_parts, indent)",
  "                shown = [prog] + shown",
  "            usage = '\\n'.join(shown)",
  "        return front + usage + '\\n\\n'",
  "    def _pieces(self, parts):",
  "        return _re.findall(r'\\(.*?\\)+(?=\\s|$)|\\[.*?\\]+(?=\\s|$)|\\S+', ' '.join(parts))",
  "    def _expand_help(self, action):",
  "        params = dict(vars(action), prog=self._prog)",
  "        for name in list(params):",
  "            if params[name] is SUPPRESS:",
  "                del params[name]",
  "            elif hasattr(params[name], '__name__'):",
  "                params[name] = params[name].__name__",
  "        if params.get('choices') is not None:",
  "            params['choices'] = ', '.join(map(str, params['choices']))",
  "        return self._get_help_string(action) % params"]

def argumentsEntry : List String := [
  "    def _entry(self, action, indent, position):",
  "        width = max(self._width - position, 11)",
  "        header = ' ' * indent + self._invocation(action)",
  "        if not action.help or not action.help.strip():",
  "            return header + '\\n'",
  "        lines = self._split_lines(self._expand_help(action), width)",
  "        if len(header) - indent <= position - indent - 2:",
  "            text = header.ljust(position) + (lines.pop(0) if lines else '') + '\\n'",
  "        else:",
  "            text = header + '\\n'",
  "        for line in lines:",
  "            text += ' ' * position + line + '\\n'",
  "        return text",
  "    def _subactions(self, action):",
  "        return getattr(action, '_choices_actions', [])",
  "    def format(self, usage, description, sections, epilog):",
  "        text = usage",
  "        longest = 0",
  "        for _, _, actions in sections:",
  "            for action in actions:",
  "                if action.help is not SUPPRESS:",
  "                    longest = max(longest, len(self._invocation(action)) + 2)",
  "                    for inner in self._subactions(action):",
  "                        longest = max(longest, len(self._invocation(inner)) + 4)",
  "        position = min(longest + 2, self._most)",
  "        if description:",
  "            description = description % dict(prog=self._prog)",
  "            text += self._fill_text(description, self._width, '') + '\\n\\n'",
  "        for title, about, actions in sections:",
  "            body = ''",
  "            if about:",
  "                about = about % dict(prog=self._prog)",
  "                body += self._fill_text(about, self._width - 2, '  ') + '\\n\\n'",
  "            for action in actions:",
  "                if action.help is not SUPPRESS:",
  "                    body += self._entry(action, 2, position)",
  "                    for inner in self._subactions(action):",
  "                        body += self._entry(inner, 4, position)",
  "            if body:",
  "                text += '%s:\\n%s\\n' % (title, body)",
  "        if epilog:",
  "            text += self._fill_text(epilog % dict(prog=self._prog), self._width, '') + '\\n'",
  "        return _re.sub(r'\\n\\n\\n+', '\\n\\n', text).strip('\\n') + '\\n'"]

def argumentsRawDescriptionHelpFormatter : List String := [
  "class RawDescriptionHelpFormatter(HelpFormatter):",
  "    def _fill_text(self, text, width, indent):",
  "        return ''.join(indent + line for line in text.splitlines(keepends=True))",
  "class RawTextHelpFormatter(RawDescriptionHelpFormatter):",
  "    def _split_lines(self, text, width):",
  "        return text.splitlines()",
  "class ArgumentDefaultsHelpFormatter(HelpFormatter):",
  "    def _get_help_string(self, action):",
  "        text = action.help or ''",
  "        if '%(default)' not in text and action.default is not SUPPRESS:",
  "            if action.option_strings or action.nargs in (OPTIONAL, ZERO_OR_MORE):",
  "                text += ' (default: %(default)s)'",
  "        return text"]

def argumentsMetavarTypeHelpFormatter : List String := [
  "class MetavarTypeHelpFormatter(HelpFormatter):",
  "    def _get_default_metavar_for_optional(self, action):",
  "        return action.type.__name__",
  "    def _get_default_metavar_for_positional(self, action):",
  "        return action.type.__name__",
  "class Action:",
  "    def __init__(self, option_strings, dest, nargs=None, const=None, default=None, type=None,",
  "                 choices=None, required=False, help=None, metavar=None):",
  "        self.option_strings = option_strings",
  "        self.dest = dest",
  "        self.nargs = nargs",
  "        self.const = const",
  "        self.default = default",
  "        self.type = type",
  "        self.choices = choices",
  "        self.required = required",
  "        self.help = help",
  "        self.metavar = metavar",
  "    def format_usage(self):",
  "        return self.option_strings[0]",
  "    def __call__(self, parser, namespace, values, option_string=None):",
  "        raise NotImplementedError('.__call__() not defined')"]

def argumentsStore : List String := [
  "class _Store(Action):",
  "    def __call__(self, parser, namespace, values, option_string=None):",
  "        setattr(namespace, self.dest, values)",
  "class _StoreConst(Action):",
  "    def __init__(self, option_strings, dest, const=None, **named):",
  "        Action.__init__(self, option_strings, dest, nargs=0, const=const, **named)",
  "    def __call__(self, parser, namespace, values, option_string=None):",
  "        setattr(namespace, self.dest, self.const)",
  "class _StoreTrue(_StoreConst):",
  "    def __init__(self, option_strings, dest, default=False, **named):",
  "        _StoreConst.__init__(self, option_strings, dest, True, default=default, **named)",
  "class _StoreFalse(_StoreConst):",
  "    def __init__(self, option_strings, dest, default=True, **named):",
  "        _StoreConst.__init__(self, option_strings, dest, False, default=default, **named)"]

def argumentsBooleanOptionalAction : List String := [
  "class BooleanOptionalAction(Action):",
  "    def __init__(self, option_strings, dest, **named):",
  "        options = []",
  "        for option in option_strings:",
  "            options.append(option)",
  "            if option.startswith('--'):",
  "                options.append('--no-' + option[2:])",
  "        Action.__init__(self, options, dest, nargs=0, **named)",
  "    def format_usage(self):",
  "        return ' | '.join(self.option_strings)",
  "    def __call__(self, parser, namespace, values, option_string=None):",
  "        setattr(namespace, self.dest, not option_string.startswith('--no-'))"]

def argumentsCopied : List String := [
  "def _copied(items):",
  "    return [] if items is None else list(items)",
  "class _Append(Action):",
  "    def __call__(self, parser, namespace, values, option_string=None):",
  "        items = _copied(getattr(namespace, self.dest, None))",
  "        items.append(values)",
  "        setattr(namespace, self.dest, items)",
  "class _Extend(Action):",
  "    def __call__(self, parser, namespace, values, option_string=None):",
  "        items = _copied(getattr(namespace, self.dest, None))",
  "        items.extend(values)",
  "        setattr(namespace, self.dest, items)"]

def argumentsAppendConst : List String := [
  "class _AppendConst(_StoreConst):",
  "    def __call__(self, parser, namespace, values, option_string=None):",
  "        items = _copied(getattr(namespace, self.dest, None))",
  "        items.append(self.const)",
  "        setattr(namespace, self.dest, items)",
  "class _Count(Action):",
  "    def __init__(self, option_strings, dest, **named):",
  "        Action.__init__(self, option_strings, dest, nargs=0, **named)",
  "    def __call__(self, parser, namespace, values, option_string=None):",
  "        setattr(namespace, self.dest, (getattr(namespace, self.dest, None) or 0) + 1)",
  "class _Help(Action):",
  "    def __init__(self, option_strings, dest=SUPPRESS, default=SUPPRESS, help=None):",
  "        Action.__init__(self, option_strings, dest, nargs=0, default=default, help=help)",
  "    def __call__(self, parser, namespace, values, option_string=None):",
  "        parser.print_help()",
  "        parser.exit()"]

def argumentsVersion : List String := [
  "class _Version(Action):",
  "    def __init__(self, option_strings, version=None, dest=SUPPRESS, default=SUPPRESS,",
  "                 help=\"show program's version number and exit\"):",
  "        Action.__init__(self, option_strings, dest, nargs=0, default=default, help=help)",
  "        self.version = version",
  "    def __call__(self, parser, namespace, values, option_string=None):",
  "        version = self.version or parser.version",
  "        text = parser._formatter()._fill_text(version % dict(prog=parser.prog), 78, '')",
  "        parser._print_message(text + '\\n', _sys.stdout)",
  "        parser.exit()",
  "class _SubParsers(Action):",
  "    def __init__(self, option_strings, prog, parser_class, dest=SUPPRESS, required=False,",
  "                 help=None, metavar=None):",
  "        self._prog_prefix = prog",
  "        self._parser_class = parser_class",
  "        self._choices_actions = []",
  "        self._table = dict()",
  "        Action.__init__(self, option_strings, dest, nargs=PARSER, choices=self._table,",
  "                        required=required, help=help, metavar=metavar)",
  "    def add_parser(self, name, *, aliases=(), **named):",
  "        if named.get('prog') is None:",
  "            named['prog'] = '%s %s' % (self._prog_prefix, name)",
  "        if 'help' in named:",
  "            text = named.pop('help')",
  "            shown = name + (' (%s)' % ', '.join(aliases) if aliases else '')",
  "            self._choices_actions.append(Action([], shown, help=text, metavar=shown))",
  "        parser = self._parser_class(**named)",
  "        self._table[name] = parser",
  "        for alias in aliases:",
  "            self._table[alias] = parser",
  "        return parser",
  "    def __call__(self, parser, namespace, values, option_string=None):",
  "        name = values[0]",
  "        if self.dest is not SUPPRESS:",
  "            setattr(namespace, self.dest, name)",
  "        inner, extras = self._table[name].parse_known_args(values[1:], None)",
  "        for key, value in vars(inner).items():",
  "            setattr(namespace, key, value)",
  "        if extras:",
  "            items = getattr(namespace, _UNRECOGNIZED_ARGS_ATTR, [])",
  "            setattr(namespace, _UNRECOGNIZED_ARGS_ATTR, items + extras)"]

def argumentsFileType : List String := [
  "class FileType:",
  "    def __init__(self, mode='r', bufsize=-1, encoding=None, errors=None):",
  "        self._mode = mode",
  "        self._args = (bufsize, encoding, errors)",
  "    def __call__(self, path):",
  "        if path == '-':",
  "            if 'r' in self._mode:",
  "                return _sys.stdin.buffer if 'b' in self._mode else _sys.stdin",
  "            return _sys.stdout.buffer if 'b' in self._mode else _sys.stdout",
  "        try:",
  "            return open(path, self._mode, *self._args)",
  "        except OSError as error:",
  "            raise ArgumentTypeError(\"can't open '%s': %s\" % (path, error))",
  "_kinds = dict(",
  "    store=_Store, store_const=_StoreConst, store_true=_StoreTrue, store_false=_StoreFalse,",
  "    append=_Append, append_const=_AppendConst, count=_Count, help=_Help, version=_Version,",
  "    extend=_Extend)"]

def argumentsContainer : List String := [
  "class _Container:",
  "    def __init__(self, root, title=None, description=None):",
  "        self._root = root",
  "        self.title = title",
  "        self.description = description",
  "        self._group_actions = []",
  "    def add_argument(self, *names, **named):",
  "        root = self._root",
  "        chars = root.prefix_chars",
  "        if not names or len(names) == 1 and names[0][0] not in chars:",
  "            if names and 'dest' in named:",
  "                raise ValueError('dest supplied twice for positional argument')",
  "            dest = named.pop('dest', None) or names[0]",
  "            nargs = named.get('nargs')",
  "            if nargs not in (OPTIONAL, ZERO_OR_MORE, REMAINDER, 0):",
  "                named['required'] = True",
  "            if nargs == ZERO_OR_MORE and 'default' not in named:",
  "                named['required'] = True",
  "            options = []",
  "        else:",
  "            options = list(names)",
  "            dest = named.pop('dest', None)",
  "            if dest is None:",
  "                long = [name for name in names if len(name) > 2 and name[1] in chars]",
  "                dest = (long or options)[0].lstrip(chars).replace('-', '_')",
  "        if 'default' not in named and root.argument_default is not None:",
  "            named['default'] = root.argument_default",
  "        kind = named.pop('action', None)",
  "        maker = _kinds.get(kind or 'store', kind) if not isinstance(kind, type) else kind",
  "        if not callable(maker):",
  "            raise ValueError('unknown action \"%s\"' % (maker,))",
  "        action = maker(option_strings=options, dest=dest, **named)",
  "        return self._take(action)",
  "    def _take(self, action):",
  "        root = self._root",
  "        for option in action.option_strings:",
  "            if option in root._options:",
  "                raise ArgumentError(action, 'conflicting option string: %s' % option)",
  "            root._options[option] = action",
  "            if _re.match(r'^-\\d+$|^-\\d*\\.\\d+$', option):",
  "                root._negative = True",
  "        root._actions.append(action)",
  "        self._group_actions.append(action)",
  "        return action"]

def argumentsExclusive : List String := [
  "class _Exclusive(_Container):",
  "    def __init__(self, container, required=False):",
  "        _Container.__init__(self, container._root)",
  "        self.required = required",
  "        self._container = container",
  "    def _take(self, action):",
  "        if action.required:",
  "            raise ValueError('mutually exclusive arguments must be optional')",
  "        self._container._take(action)",
  "        self._group_actions.append(action)",
  "        return action",
  "class ArgumentParser(_Container):",
  "    def __init__(self, prog=None, usage=None, description=None, epilog=None, parents=(),",
  "                 formatter_class=HelpFormatter, prefix_chars='-', fromfile_prefix_chars=None,",
  "                 argument_default=None, conflict_handler='error', add_help=True,",
  "                 allow_abbrev=True, exit_on_error=True):",
  "        _Container.__init__(self, self, None, description)",
  "        self.prog = _os.path.basename(_sys.argv[0]) if prog is None else prog",
  "        self.usage = usage",
  "        self.epilog = epilog",
  "        self.formatter_class = formatter_class",
  "        self.prefix_chars = prefix_chars",
  "        self.argument_default = argument_default",
  "        self.allow_abbrev = allow_abbrev",
  "        self.exit_on_error = exit_on_error",
  "        self._fromfile = fromfile_prefix_chars",
  "        self._actions = []",
  "        self._options = dict()",
  "        self._defaults = dict()",
  "        self._exclusive = []",
  "        self._negative = False",
  "        self._places = _Container(self, 'positional arguments')",
  "        self._optionals = _Container(self, 'options')",
  "        self._groups = [self._places, self._optionals]",
  "        self._subparsers = None",
  "        if add_help:"]

def argumentsTake : List String := [
  "            self.add_argument('-h', '--help', action='help', default=SUPPRESS,",
  "                              help='show this help message and exit')",
  "        for parent in parents:",
  "            for group in parent._groups:",
  "                target = self",
  "                if group is not parent._places and group is not parent._optionals:",
  "                    target = self.add_argument_group(group.title, group.description)",
  "                for action in group._group_actions:",
  "                    target._take(action)",
  "            self._defaults.update(parent._defaults)",
  "    def _take(self, action):",
  "        if action.option_strings:",
  "            return self._optionals._take(action)",
  "        return self._places._take(action)",
  "    def add_argument_group(self, title=None, description=None):",
  "        group = _Container(self, title, description)",
  "        self._groups.append(group)",
  "        return group",
  "    def add_mutually_exclusive_group(self, required=False):",
  "        group = _Exclusive(self, required)",
  "        self._exclusive.append(group)",
  "        return group"]

def argumentsAddSubparsers : List String := [
  "    def add_subparsers(self, title=None, description=None, prog=None, parser_class=None,",
  "                       action=None, dest=SUPPRESS, required=False, help=None, metavar=None):",
  "        if self._subparsers is not None:",
  "            self.error('cannot have multiple subparser arguments')",
  "        group = self._places",
  "        if title or description:",
  "            group = self.add_argument_group(title or 'subcommands', description)",
  "        if prog is None:",
  "            places = [item for item in self._actions if not item.option_strings]",
  "            usage = self._formatter()._usage(self.usage, places, [], '')",
  "            prog = usage.strip()",
  "        made = _SubParsers([], prog, parser_class or type(self), dest, required, help, metavar)",
  "        self._subparsers = made",
  "        group._take(made)",
  "        return made",
  "    def set_defaults(self, **named):",
  "        self._defaults.update(named)",
  "        for action in self._actions:",
  "            if action.dest in named:",
  "                action.default = named[action.dest]",
  "    def get_default(self, dest):",
  "        for action in self._actions:",
  "            if action.dest == dest and action.default is not None:",
  "                return action.default",
  "        return self._defaults.get(dest)",
  "    def _formatter(self):",
  "        return self.formatter_class(prog=self.prog)",
  "    def _exclusive_lists(self):",
  "        return [(group._group_actions, group.required) for group in self._exclusive]",
  "    def _usage_text(self):",
  "        return self._formatter()._usage(",
  "            self.usage, self._actions, self._exclusive_lists(), 'usage: ')",
  "    def format_usage(self):",
  "        return self._usage_text().rstrip('\\n') + '\\n'"]

def argumentsFormatHelp : List String := [
  "    def format_help(self):",
  "        sections = [(group.title, group.description, group._group_actions)",
  "                    for group in self._groups]",
  "        return self._formatter().format(",
  "            self._usage_text(), self.description, sections, self.epilog)",
  "    def print_usage(self, file=None):",
  "        self._print_message(self.format_usage(), file or _sys.stdout)",
  "    def print_help(self, file=None):",
  "        self._print_message(self.format_help(), file or _sys.stdout)",
  "    def _print_message(self, message, file=None):",
  "        if message:",
  "            (file or _sys.stderr).write(message)",
  "    def exit(self, status=0, message=None):",
  "        if message:",
  "            self._print_message(message, _sys.stderr)",
  "        _sys.exit(status)",
  "    def error(self, message):",
  "        self.print_usage(_sys.stderr)",
  "        self.exit(2, '%s: error: %s\\n' % (self.prog, message))",
  "    def parse_args(self, args=None, namespace=None):",
  "        namespace, extras = self.parse_known_args(args, namespace)",
  "        if extras:",
  "            self.error('unrecognized arguments: %s' % ' '.join(extras))",
  "        return namespace",
  "    parse_intermixed_args = parse_args"]

def argumentsParseKnownArgs : List String := [
  "    def parse_known_args(self, args=None, namespace=None):",
  "        args = _sys.argv[1:] if args is None else list(args)",
  "        if namespace is None:",
  "            namespace = Namespace()",
  "        for action in self._actions:",
  "            if action.dest is not SUPPRESS and not hasattr(namespace, action.dest):",
  "                if action.default is not SUPPRESS:",
  "                    setattr(namespace, action.dest, action.default)",
  "        for dest, value in self._defaults.items():",
  "            if not hasattr(namespace, dest):",
  "                setattr(namespace, dest, value)",
  "        if not self.exit_on_error:",
  "            return self._parse(args, namespace)",
  "        try:",
  "            return self._parse(args, namespace)",
  "        except ArgumentError as error:",
  "            self.error(str(error))",
  "    def _from_files(self, args):",
  "        result = []",
  "        for arg in args:",
  "            if arg and arg[0] in self._fromfile:",
  "                try:",
  "                    with open(arg[1:]) as file:",
  "                        result.extend(self._from_files(file.read().splitlines()))",
  "                except OSError as error:",
  "                    raise ArgumentError(None, str(error))",
  "            else:",
  "                result.append(arg)",
  "        return result"]

def argumentsOption : List String := [
  "    def _option(self, arg):",
  "        if not arg or arg[0] not in self.prefix_chars:",
  "            return None",
  "        if arg in self._options:",
  "            return [(self._options[arg], arg, None)]",
  "        if len(arg) == 1:",
  "            return None",
  "        if '=' in arg:",
  "            option, value = arg.split('=', 1)",
  "            if option in self._options:",
  "                return [(self._options[option], option, value)]",
  "        found = self._abbreviated(arg)",
  "        if len(found) > 0:",
  "            return found",
  "        if _re.match(r'^-\\d+$|^-\\d*\\.\\d+$', arg) and not self._negative:",
  "            return None",
  "        if ' ' in arg:",
  "            return None",
  "        return [(None, arg, None)]",
  "    def _abbreviated(self, arg):",
  "        chars = self.prefix_chars",
  "        found = []",
  "        if arg[0] in chars and arg[1] in chars:",
  "            if self.allow_abbrev:",
  "                option, value = (arg.split('=', 1) + [None])[:2] if '=' in arg else (arg, None)",
  "                for name in self._options:",
  "                    if name.startswith(option):",
  "                        found.append((self._options[name], name, value))",
  "        else:",
  "            short = arg[:2]",
  "            for name in self._options:",
  "                if name == short:",
  "                    found.append((self._options[name], name, arg[2:]))",
  "                elif self.allow_abbrev and name.startswith(arg):",
  "                    found.append((self._options[name], name, None))",
  "        return found"]

def argumentsCount : List String := [
  "    def _count(self, nargs, pattern):",
  "        if nargs is None:",
  "            pattern_text = '(-*A-*)'",
  "        elif nargs == OPTIONAL:",
  "            pattern_text = '(-*A?-*)'",
  "        elif nargs == ZERO_OR_MORE:",
  "            pattern_text = '(-*[A-]*)'",
  "        elif nargs == ONE_OR_MORE:",
  "            pattern_text = '(-*A[A-]*)'",
  "        elif nargs == REMAINDER:",
  "            pattern_text = '([-AO]*)'",
  "        elif nargs == PARSER:",
  "            pattern_text = '(-*A[-AO]*)'",
  "        else:",
  "            pattern_text = '(-*%s-*)' % '-*'.join('A' * nargs)",
  "        return pattern_text",
  "    def _match(self, action, marks):",
  "        text = self._count(action.nargs, marks)",
  "        if action.option_strings:",
  "            text = text.replace('-*', '').replace('-', '')",
  "        found = _re.match(text, marks)",
  "        if found is None:",
  "            wanted = dict([(None, 'expected one argument'),",
  "                           (OPTIONAL, 'expected at most one argument'),",
  "                           (ONE_OR_MORE, 'expected at least one argument')])",
  "            message = wanted.get(action.nargs)",
  "            if message is None:",
  "                message = 'expected %s argument%s' % (",
  "                    action.nargs, '' if action.nargs == 1 else 's')",
  "            raise ArgumentError(action, message)",
  "        return len(found.group(1))"]

def argumentsValue : List String := [
  "    def _value(self, action, text):",
  "        kind = action.type",
  "        if kind is None:",
  "            return text",
  "        try:",
  "            return kind(text)",
  "        except ArgumentTypeError as error:",
  "            raise ArgumentError(action, str(error))",
  "        except (TypeError, ValueError):",
  "            name = getattr(kind, '__name__', repr(kind))",
  "            raise ArgumentError(action, 'invalid %s value: %r' % (name, text))",
  "    def _check(self, action, value):",
  "        if action.choices is not None and value not in action.choices:",
  "            choices = ', '.join(map(repr, action.choices))",
  "            raise ArgumentError(",
  "                action, 'invalid choice: %r (choose from %s)' % (value, choices))",
  "    def _values(self, action, texts):",
  "        if action.nargs not in (PARSER, REMAINDER) and '--' in texts:",
  "            texts = list(texts)",
  "            texts.remove('--')",
  "        if not texts and action.nargs == OPTIONAL:",
  "            value = action.const if action.option_strings else action.default",
  "            if isinstance(value, str):",
  "                value = self._value(action, value)",
  "                self._check(action, value)",
  "            return value",
  "        if not texts and action.nargs == ZERO_OR_MORE and not action.option_strings:",
  "            if action.default is not None:",
  "                return action.default",
  "            return []",
  "        if len(texts) == 1 and action.nargs in (None, OPTIONAL):",
  "            value = self._value(action, texts[0])",
  "            self._check(action, value)",
  "            return value",
  "        if action.nargs == REMAINDER:",
  "            return [self._value(action, text) for text in texts]"]

def argumentsParse : List String := [
  "        if action.nargs == PARSER:",
  "            values = [self._value(action, text) for text in texts]",
  "            self._check(action, values[0])",
  "            return values",
  "        values = [self._value(action, text) for text in texts]",
  "        for value in values:",
  "            self._check(action, value)",
  "        return values",
  "    def _parse(self, args, namespace):",
  "        if self._fromfile is not None:",
  "            args = self._from_files(args)",
  "        options = dict()",
  "        marks = ''",
  "        rest = iter(enumerate(args))",
  "        for place, arg in rest:",
  "            if arg == '--':",
  "                marks += '-'",
  "                for _ in rest:",
  "                    marks += 'A'",
  "            else:",
  "                found = self._option(arg)",
  "                if found is None:",
  "                    marks += 'A'",
  "                else:",
  "                    options[place] = found",
  "                    marks += 'O'",
  "        seen = set()",
  "        meant = set()",
  "        extras = []",
  "        places = [action for action in self._actions if not action.option_strings]",
  "        def take(action, texts, option=None):",
  "            seen.add(id(action))",
  "            values = self._values(action, texts)",
  "            if values is not action.default:",
  "                meant.add(id(action))",
  "                for group, _ in self._exclusive_lists():"]

def argumentsMore : List String := [
  "                    if any(action is item for item in group):",
  "                        for other in group:",
  "                            if other is not action and id(other) in meant:",
  "                                raise ArgumentError(",
  "                                    action, 'not allowed with argument %s' % _name_of(other))",
  "            if values is not SUPPRESS:",
  "                action(self, namespace, values, option)",
  "        def take_option(start):",
  "            found = options[start]",
  "            if len(found) > 1:",
  "                names = ', '.join(name for _, name, _ in found)",
  "                raise ArgumentError(None, 'ambiguous option: %s could match %s' % (",
  "                    args[start], names))",
  "            action, option, value = found[0]",
  "            queue = []",
  "            while True:",
  "                if action is None:",
  "                    extras.append(args[start])",
  "                    return start + 1",
  "                if value is not None:",
  "                    count = self._match(action, 'A')",
  "                    chars = self.prefix_chars",
  "                    single = option[0] in chars and option[1] not in chars",
  "                    if count == 0 and single and value != '':",
  "                        queue.append((action, [], option))",
  "                        option = option[0] + value[0]",
  "                        if option in self._options:",
  "                            action = self._options[option]",
  "                            value = value[1:] or None",
  "                            if value is not None and value[0] == '=':",
  "                                value = value[1:]",
  "                        else:",
  "                            raise ArgumentError(",
  "                                action, 'ignored explicit argument %r' % value)",
  "                    elif count == 1:",
  "                        queue.append((action, [value], option))"]

def argumentsRest : List String := [
  "                        stop = start + 1",
  "                        break",
  "                    else:",
  "                        raise ArgumentError(action, 'ignored explicit argument %r' % value)",
  "                else:",
  "                    count = self._match(action, marks[start + 1:])",
  "                    stop = start + 1 + count",
  "                    queue.append((action, args[start + 1:stop], option))",
  "                    break",
  "            for action, texts, option in queue:",
  "                take(action, texts, option)",
  "            return stop",
  "        def take_places(start):",
  "            left = marks[start:]",
  "            for size in range(len(places), 0, -1):",
  "                text = ''.join(self._count(action.nargs, left) for action in places[:size])",
  "                found = _re.match(text, left)",
  "                if found is not None:",
  "                    counts = [len(group) for group in found.groups()]",
  "                    break",
  "            else:",
  "                counts = []",
  "            for action, count in zip(list(places), counts):",
  "                texts = args[start:start + count]",
  "                start += count",
  "                take(action, texts)",
  "            places[:] = places[len(counts):]",
  "            return start",
  "        start = 0",
  "        last = max(options) if options else -1",
  "        while start <= last:",
  "            following = min(place for place in options if place >= start)",
  "            if start != following:",
  "                stop = take_places(start)",
  "                if stop > start:",
  "                    start = stop"]

def argumentsRestRest : List String := [
  "                    continue",
  "            if start not in options:",
  "                extras.extend(args[start:following])",
  "                start = following",
  "            start = take_option(start)",
  "        stop = take_places(start)",
  "        extras.extend(args[stop:])",
  "        missing = []",
  "        for action in self._actions:",
  "            if id(action) not in seen:",
  "                if action.required:",
  "                    missing.append(_name_of(action))",
  "                elif isinstance(action.default, str) and action.default is not SUPPRESS:",
  "                    if getattr(namespace, action.dest, None) is action.default:",
  "                        setattr(namespace, action.dest, self._value(action, action.default))",
  "        if missing:",
  "            raise ArgumentError(None, 'the following arguments are required: %s' % (",
  "                ', '.join(missing)))",
  "        for group, required in self._exclusive_lists():",
  "            if required and not any(id(action) in meant for action in group):",
  "                names = [_name_of(action) for action in group if action.help is not SUPPRESS]",
  "                raise ArgumentError(",
  "                    None, 'one of the arguments %s is required' % ' '.join(names))",
  "        if hasattr(namespace, _UNRECOGNIZED_ARGS_ATTR):",
  "            extras.extend(getattr(namespace, _UNRECOGNIZED_ARGS_ATTR))",
  "            delattr(namespace, _UNRECOGNIZED_ARGS_ATTR)",
  "        return namespace, extras"]

def arguments : List String :=
  argumentsArgumentError ++ argumentsArgumentTypeError ++ argumentsNamespace ++
    argumentsArguments ++ argumentsParts ++ argumentsUsage ++ argumentsPieces ++ argumentsEntry ++
    argumentsRawDescriptionHelpFormatter ++ argumentsMetavarTypeHelpFormatter ++ argumentsStore ++
    argumentsBooleanOptionalAction ++ argumentsCopied ++ argumentsAppendConst ++
    argumentsVersion ++ argumentsFileType ++ argumentsContainer ++ argumentsExclusive ++
    argumentsTake ++ argumentsAddSubparsers ++ argumentsFormatHelp ++ argumentsParseKnownArgs ++
    argumentsOption ++ argumentsCount ++ argumentsValue ++ argumentsParse ++ argumentsMore ++
    argumentsRest ++ argumentsRestRest

/-! Plain options. -/

def optionsGetoptError : List String := [
  "class GetoptError(Exception):",
  "    def __init__(self, msg, opt=''):",
  "        self.msg = msg",
  "        self.opt = opt",
  "        Exception.__init__(self, msg, opt)",
  "    def __str__(self):",
  "        return self.msg",
  "error = GetoptError",
  "def _long(opts, name, names, args):",
  "    name, mark, value = name.partition('=')",
  "    found = [item for item in names if item.startswith(name)]",
  "    if not found:",
  "        raise GetoptError('option --%s not recognized' % name, name)",
  "    if name in found:",
  "        takes, full = False, name",
  "    elif name + '=' in found:",
  "        takes, full = True, name",
  "    else:",
  "        if len(found) > 1:",
  "            raise GetoptError('option --%s not a unique prefix' % name, name)",
  "        takes = found[0].endswith('=')",
  "        full = found[0].rstrip('=')",
  "    if takes:",
  "        if not mark:",
  "            if not args:",
  "                raise GetoptError('option --%s requires argument' % full, full)",
  "            value, args = args[0], args[1:]",
  "    elif mark:",
  "        raise GetoptError('option --%s must not have an argument' % full, full)",
  "    opts.append(('--' + full, value))",
  "    return args"]

def optionsShort : List String := [
  "def _short(opts, letters, known, args):",
  "    while letters:",
  "        letter, letters = letters[0], letters[1:]",
  "        place = known.find(letter)",
  "        if place < 0 or letter == ':':",
  "            raise GetoptError('option -%s not recognized' % letter, letter)",
  "        value = ''",
  "        if known[place + 1:place + 2] == ':':",
  "            if not letters:",
  "                if not args:",
  "                    raise GetoptError('option -%s requires argument' % letter, letter)",
  "                letters, args = args[0], args[1:]",
  "            value, letters = letters, ''",
  "        opts.append(('-' + letter, value))",
  "    return args"]

def optionsGetopt : List String := [
  "def getopt(args, shortopts, longopts=[]):",
  "    opts = []",
  "    longopts = [longopts] if isinstance(longopts, str) else list(longopts)",
  "    while args and args[0].startswith('-') and args[0] != '-':",
  "        if args[0] == '--':",
  "            args = args[1:]",
  "            break",
  "        if args[0].startswith('--'):",
  "            args = _long(opts, args[0][2:], longopts, args[1:])",
  "        else:",
  "            args = _short(opts, args[0][1:], shortopts, args[1:])",
  "    return opts, args"]

def optionsGnuGetopt : List String := [
  "def gnu_getopt(args, shortopts, longopts=[]):",
  "    opts, rest = [], []",
  "    longopts = [longopts] if isinstance(longopts, str) else list(longopts)",
  "    while args:",
  "        if args[0] == '--':",
  "            rest += args[1:]",
  "            break",
  "        if args[0].startswith('--'):",
  "            args = _long(opts, args[0][2:], longopts, args[1:])",
  "        elif args[0].startswith('-') and args[0] != '-':",
  "            args = _short(opts, args[0][1:], shortopts.lstrip('+'), args[1:])",
  "        else:",
  "            rest.append(args[0])",
  "            args = args[1:]",
  "    return opts, rest"]

def options : List String :=
  optionsGetoptError ++ optionsShort ++ optionsGetopt ++ optionsGnuGetopt

/-! Texts in lines of a width. -/

def wrappingTextWrapper : List String := [
  "import re",
  "class TextWrapper:",
  "    def __init__(self, width=70, initial_indent='', subsequent_indent='', expand_tabs=True,",
  "                 replace_whitespace=True, fix_sentence_endings=False, break_long_words=True,",
  "                 drop_whitespace=True, break_on_hyphens=True, tabsize=8, *, max_lines=None,",
  "                 placeholder=' [...]'):",
  "        self.width = width",
  "        self.initial_indent = initial_indent",
  "        self.subsequent_indent = subsequent_indent",
  "        self.expand_tabs = expand_tabs",
  "        self.replace_whitespace = replace_whitespace",
  "        self.break_long_words = break_long_words",
  "        self.drop_whitespace = drop_whitespace",
  "        self.break_on_hyphens = break_on_hyphens",
  "        self.tabsize = tabsize",
  "        self.max_lines = max_lines",
  "        self.placeholder = placeholder",
  "    def _chunks(self, text):",
  "        if self.expand_tabs:",
  "            text = text.expandtabs(self.tabsize)",
  "        if self.replace_whitespace:",
  "            text = re.sub(r'[\\t\\n\\x0b\\x0c\\r ]', ' ', text)",
  "        pieces = []",
  "        for piece in re.split(r'(\\s+)', text):",
  "            if self.break_on_hyphens and '-' in piece:",
  "                pieces.extend(re.findall(r'[^-]*[A-Za-z]-(?=\\w)|.+?(?=$)|.+', piece)",
  "                              if re.search(r'\\w[A-Za-z]-\\w', piece) else [piece])",
  "            else:",
  "                pieces.append(piece)",
  "        return [piece for piece in pieces if piece]"]

def wrappingWrap : List String := [
  "    def wrap(self, text):",
  "        chunks = self._chunks(text)[::-1]",
  "        lines = []",
  "        while chunks:",
  "            line = []",
  "            size = 0",
  "            indent = self.subsequent_indent if lines else self.initial_indent",
  "            width = self.width - len(indent)",
  "            if self.drop_whitespace and chunks[-1].strip() == '' and lines:",
  "                chunks.pop()",
  "            while chunks and size + len(chunks[-1]) <= width:",
  "                size += len(chunks[-1])",
  "                line.append(chunks.pop())",
  "            if chunks and len(chunks[-1]) > width:",
  "                left = width - size",
  "                if self.break_long_words:",
  "                    left = max(left, 1)",
  "                    line.append(chunks[-1][:left])",
  "                    chunks[-1] = chunks[-1][left:]",
  "                elif not line:",
  "                    line.append(chunks.pop())",
  "                size = sum(map(len, line))",
  "            if self.drop_whitespace and line and line[-1].strip() == '':",
  "                size -= len(line[-1])",
  "                line.pop()",
  "            if line:",
  "                full = self.max_lines is not None and len(lines) + 1 >= self.max_lines",
  "                more = [chunk for chunk in chunks if chunk.strip()]",
  "                if not full or not more:",
  "                    lines.append(indent + ''.join(line))",
  "                else:",
  "                    while line:",
  "                        if line[-1].strip() and size + len(self.placeholder) <= width:",
  "                            line.append(self.placeholder)",
  "                            lines.append(indent + ''.join(line))",
  "                            break",
  "                        size -= len(line.pop())",
  "                    else:",
  "                        lines.append(indent + self.placeholder.lstrip())",
  "                    break",
  "        return lines",
  "    def fill(self, text):",
  "        return '\\n'.join(self.wrap(text))"]

def wrappingWrapRest : List String := [
  "def wrap(text, width=70, **named):",
  "    return TextWrapper(width=width, **named).wrap(text)",
  "def fill(text, width=70, **named):",
  "    return TextWrapper(width=width, **named).fill(text)",
  "def shorten(text, width, **named):",
  "    text = ' '.join(text.strip().split())",
  "    return TextWrapper(width=width, max_lines=1, **named).fill(text)",
  "def dedent(text):",
  "    lines = text.split('\\n')",
  "    margin = None",
  "    for place, line in enumerate(lines):",
  "        if not line.strip():",
  "            lines[place] = ''",
  "            continue",
  "        indent = line[:len(line) - len(line.lstrip(' \\t'))]",
  "        if margin is None:",
  "            margin = indent",
  "        else:",
  "            size = 0",
  "            while size < min(len(margin), len(indent)) and margin[size] == indent[size]:",
  "                size += 1",
  "            margin = margin[:size]",
  "    if margin:",
  "        lines = [line[len(margin):] if line else line for line in lines]",
  "    return '\\n'.join(lines)"]

def wrappingIndent : List String := [
  "def indent(text, prefix, predicate=None):",
  "    if predicate is None:",
  "        predicate = str.strip",
  "    return ''.join(prefix + line if predicate(line) else line",
  "                   for line in text.splitlines(True))"]

def wrapping : List String :=
  wrappingTextWrapper ++ wrappingWrap ++ wrappingWrapRest ++ wrappingIndent

end ShaderCost.Script.Indented.Written
