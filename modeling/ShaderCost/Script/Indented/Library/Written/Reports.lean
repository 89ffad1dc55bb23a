import ShaderCost.Text.Basic

/-!
Parts of the library that are told in the language itself: what is said about the course of a
program.
-/

namespace ShaderCost.Script.Indented.Written

/-! Messages with levels. -/

def reportsGetLevelName : List String := [
  "import sys, time, os, traceback as _traceback",
  "CRITICAL = FATAL = 50",
  "ERROR, WARNING, INFO, DEBUG, NOTSET = 40, 30, 20, 10, 0",
  "WARN = WARNING",
  "BASIC_FORMAT = '%(levelname)s:%(name)s:%(message)s'",
  "raiseExceptions = True",
  "_names = dict([(50, 'CRITICAL'), (40, 'ERROR'), (30, 'WARNING'), (20, 'INFO'), (10, 'DEBUG'),",
  "               (0, 'NOTSET')])",
  "def getLevelName(level):",
  "    if isinstance(level, str):",
  "        for number, name in _names.items():",
  "            if name == level:",
  "                return number",
  "    return _names.get(level, 'Level %s' % level)"]

def reportsAddLevelName : List String := [
  "def addLevelName(level, name):",
  "    _names[level] = name",
  "def _level(level):",
  "    if isinstance(level, str):",
  "        number = getLevelName(level)",
  "        if not isinstance(number, int):",
  "            raise ValueError('Unknown level: %r' % level)",
  "        return number",
  "    return level",
  "class LogRecord:",
  "    def __init__(self, name, level, msg, args, exc_info=None, extra=None):",
  "        self.name = name",
  "        self.levelno = level",
  "        self.levelname = getLevelName(level)",
  "        self.msg = msg",
  "        self.args = args",
  "        self.exc_info = exc_info",
  "        self.created = time.time()",
  "        self.msecs = int(self.created * 1000) % 1000",
  "        self.relativeCreated = 0.0",
  "        self.process = os.getpid()",
  "        self.processName = 'MainProcess'",
  "        self.thread = 1",
  "        self.threadName = 'MainThread'",
  "        self.pathname = sys.argv[0]",
  "        self.filename = os.path.basename(sys.argv[0])",
  "        self.module = os.path.splitext(self.filename)[0]",
  "        self.lineno = 0",
  "        self.funcName = '<module>'",
  "        for key, value in (extra or dict()).items():",
  "            setattr(self, key, value)",
  "    def getMessage(self):",
  "        message = str(self.msg)",
  "        if self.args:",
  "            if len(self.args) == 1 and isinstance(self.args[0], dict) and self.args[0]:",
  "                message = message % self.args[0]",
  "            else:",
  "                message = message % self.args",
  "        return message"]

def reportsFormatter : List String := [
  "class Formatter:",
  "    def __init__(self, fmt=None, datefmt=None, style='%', validate=True, *, defaults=None):",
  "        usual = dict([('%', '%(message)s'), ('\\x7b', '\\x7bmessage\\x7d'), ('$', '$message')])",
  "        self._fmt = fmt or usual[style]",
  "        self._style = style",
  "        self.datefmt = datefmt",
  "    def formatTime(self, record, datefmt=None):",
  "        moment = time.localtime(record.created)",
  "        if datefmt:",
  "            return time.strftime(datefmt, moment)",
  "        return time.strftime('%Y-%m-%d %H:%M:%S', moment) + ',%03d' % record.msecs",
  "    def formatException(self, info):",
  "        return ''.join(_traceback.format_exception(*info)).rstrip('\\n')",
  "    def format(self, record):",
  "        record.message = record.getMessage()",
  "        if 'asctime' in self._fmt:",
  "            record.asctime = self.formatTime(record, self.datefmt)",
  "        if self._style == '%':",
  "            text = self._fmt % vars(record)",
  "        elif self._style == '\\x7b':",
  "            text = self._fmt.format(**vars(record))",
  "        else:",
  "            import string",
  "            text = string.Template(self._fmt).substitute(vars(record))",
  "        if record.exc_info:",
  "            text += '\\n' + self.formatException(record.exc_info)",
  "        return text"]

def reportsFilter : List String := [
  "class Filter:",
  "    def __init__(self, name=''):",
  "        self.name = name",
  "    def filter(self, record):",
  "        return not self.name or record.name == self.name or (",
  "            record.name.startswith(self.name + '.'))",
  "class Filterer:",
  "    def addFilter(self, filter):",
  "        self.filters.append(filter)",
  "    def removeFilter(self, filter):",
  "        self.filters.remove(filter)",
  "    def filter(self, record):",
  "        return all((f.filter(record) if hasattr(f, 'filter') else f(record))",
  "                   for f in self.filters)"]

def reportsHandler : List String := [
  "class Handler(Filterer):",
  "    def __init__(self, level=NOTSET):",
  "        self.level = _level(level)",
  "        self.formatter = None",
  "        self.filters = []",
  "    def setLevel(self, level):",
  "        self.level = _level(level)",
  "    def setFormatter(self, formatter):",
  "        self.formatter = formatter",
  "    def format(self, record):",
  "        return (self.formatter or Formatter()).format(record)",
  "    def handle(self, record):",
  "        if record.levelno >= self.level and self.filter(record):",
  "            self.emit(record)",
  "    def emit(self, record):",
  "        pass",
  "    def flush(self):",
  "        pass",
  "    def close(self):",
  "        pass"]

def reportsStreamHandler : List String := [
  "class StreamHandler(Handler):",
  "    terminator = '\\n'",
  "    def __init__(self, stream=None):",
  "        Handler.__init__(self)",
  "        self.stream = sys.stderr if stream is None else stream",
  "    def emit(self, record):",
  "        self.stream.write(self.format(record) + self.terminator)",
  "        self.flush()",
  "    def flush(self):",
  "        self.stream.flush()",
  "class FileHandler(StreamHandler):",
  "    def __init__(self, filename, mode='a', encoding=None, delay=False, errors=None):",
  "        StreamHandler.__init__(self, open(filename, mode, encoding=encoding))",
  "    def close(self):",
  "        self.stream.close()"]

def reportsNullHandler : List String := [
  "class NullHandler(Handler):",
  "    pass",
  "class _LastHandler(Handler):",
  "    def emit(self, record):",
  "        sys.stderr.write(self.format(record) + '\\n')",
  "lastResort = _LastHandler(WARNING)",
  "class Logger(Filterer):",
  "    def __init__(self, name, level=NOTSET):",
  "        self.name = name",
  "        self.level = level",
  "        self.parent = None",
  "        self.propagate = True",
  "        self.handlers = []",
  "        self.filters = []",
  "        self.disabled = False",
  "    def setLevel(self, level):",
  "        self.level = _level(level)",
  "    def getEffectiveLevel(self):",
  "        logger = self",
  "        while logger:",
  "            if logger.level:",
  "                return logger.level",
  "            logger = logger.parent",
  "        return NOTSET",
  "    def isEnabledFor(self, level):",
  "        return not self.disabled and level > _state[0] and level >= self.getEffectiveLevel()",
  "    def addHandler(self, handler):",
  "        if handler not in self.handlers:",
  "            self.handlers.append(handler)",
  "    def removeHandler(self, handler):",
  "        if handler in self.handlers:",
  "            self.handlers.remove(handler)",
  "    def hasHandlers(self):",
  "        return bool(self.handlers) or bool(self.parent and self.parent.hasHandlers())",
  "    def getChild(self, suffix):",
  "        return getLogger(suffix if self is root else self.name + '.' + suffix)"]

def reportsLog : List String := [
  "    def log(self, level, msg, *args, exc_info=None, stack_info=False, stacklevel=1,",
  "            extra=None):",
  "        if not self.isEnabledFor(level):",
  "            return",
  "        if exc_info:",
  "            if isinstance(exc_info, BaseException):",
  "                exc_info = (type(exc_info), exc_info, None)",
  "            elif not isinstance(exc_info, tuple):",
  "                exc_info = sys.exc_info()",
  "        record = LogRecord(self.name, level, msg, args, exc_info, extra)",
  "        if not self.filter(record):",
  "            return",
  "        logger = self",
  "        found = False",
  "        while logger:",
  "            for handler in logger.handlers:",
  "                found = True",
  "                handler.handle(record)",
  "            logger = logger.parent if logger.propagate else None",
  "        if not found:",
  "            lastResort.handle(record)",
  "    def debug(self, msg, *args, **named):",
  "        self.log(DEBUG, msg, *args, **named)",
  "    def info(self, msg, *args, **named):",
  "        self.log(INFO, msg, *args, **named)",
  "    def warning(self, msg, *args, **named):",
  "        self.log(WARNING, msg, *args, **named)",
  "    warn = warning",
  "    def error(self, msg, *args, **named):",
  "        self.log(ERROR, msg, *args, **named)",
  "    def exception(self, msg, *args, exc_info=True, **named):",
  "        self.log(ERROR, msg, *args, exc_info=exc_info, **named)",
  "    def critical(self, msg, *args, **named):",
  "        self.log(CRITICAL, msg, *args, **named)",
  "    fatal = critical",
  "    def __repr__(self):",
  "        return '<Logger %s (%s)>' % (self.name, getLevelName(self.getEffectiveLevel()))"]

def reportsGetLogger : List String := [
  "_state = [0]",
  "root = Logger('root', WARNING)",
  "_loggers = dict()",
  "def getLogger(name=None):",
  "    if not name or name == 'root':",
  "        return root",
  "    if name not in _loggers:",
  "        logger = Logger(name)",
  "        above = name.rpartition('.')[0]",
  "        logger.parent = getLogger(above) if above else root",
  "        _loggers[name] = logger",
  "    return _loggers[name]"]

def reportsBasicConfig : List String := [
  "def basicConfig(*, filename=None, filemode='a', format=BASIC_FORMAT, datefmt=None, style='%',",
  "                level=None, stream=None, handlers=None, force=False, encoding=None,",
  "                errors=None):",
  "    if force:",
  "        root.handlers.clear()",
  "    if not root.handlers:",
  "        if handlers is None:",
  "            handlers = [FileHandler(filename, filemode) if filename else StreamHandler(stream)]",
  "        for handler in handlers:",
  "            if handler.formatter is None:",
  "                handler.setFormatter(Formatter(format, datefmt, style))",
  "            root.addHandler(handler)",
  "        if level is not None:",
  "            root.setLevel(level)"]

def reportsReady : List String := [
  "def _ready():",
  "    if not root.handlers:",
  "        basicConfig()",
  "def log(level, msg, *args, **named):",
  "    _ready()",
  "    root.log(level, msg, *args, **named)",
  "def debug(msg, *args, **named):",
  "    log(DEBUG, msg, *args, **named)",
  "def info(msg, *args, **named):",
  "    log(INFO, msg, *args, **named)",
  "def warning(msg, *args, **named):",
  "    log(WARNING, msg, *args, **named)",
  "warn = warning"]

def reportsError : List String := [
  "def error(msg, *args, **named):",
  "    log(ERROR, msg, *args, **named)",
  "def exception(msg, *args, exc_info=True, **named):",
  "    log(ERROR, msg, *args, exc_info=exc_info, **named)",
  "def critical(msg, *args, **named):",
  "    log(CRITICAL, msg, *args, **named)",
  "fatal = critical",
  "def disable(level=CRITICAL):",
  "    _state[0] = level",
  "def shutdown():",
  "    pass",
  "def captureWarnings(capture):",
  "    pass"]

def reports : List String :=
  reportsGetLevelName ++ reportsAddLevelName ++ reportsFormatter ++ reportsFilter ++
    reportsHandler ++ reportsStreamHandler ++ reportsNullHandler ++ reportsLog ++
    reportsGetLogger ++ reportsBasicConfig ++ reportsReady ++ reportsError

/-! Faults. -/

def tracesFault : List String := [
  "import sys",
  "def _fault(exc, value):",
  "    return exc if value is None else value",
  "def format_exception(exc, /, value=None, tb=None, limit=None, chain=True):",
  "    return [line + '\\n' for line in _report(_fault(exc, value)).split('\\n')[:-1]]",
  "def format_exception_only(exc, /, value=None):",
  "    return format_exception(_fault(exc, value))[-1:]",
  "def print_exception(exc, /, value=None, tb=None, limit=None, file=None, chain=True):",
  "    (file or sys.stderr).write(''.join(format_exception(exc, value)))",
  "def format_exc(limit=None, chain=True):",
  "    fault = sys.exception()",
  "    return 'NoneType: None\\n' if fault is None else ''.join(format_exception(fault))"]

def tracesPrintExc : List String := [
  "def print_exc(limit=None, file=None, chain=True):",
  "    (file or sys.stderr).write(format_exc())",
  "def format_tb(tb, limit=None):",
  "    return []",
  "def print_tb(tb, limit=None, file=None):",
  "    pass",
  "def extract_tb(tb, limit=None):",
  "    return []",
  "def format_stack(f=None, limit=None):",
  "    return _stack()",
  "def print_stack(f=None, limit=None, file=None):",
  "    (file or sys.stderr).write(''.join(_stack()))"]

def tracesExtractStack : List String := [
  "def extract_stack(f=None, limit=None):",
  "    return []"]

def traces : List String :=
  tracesFault ++ tracesPrintExc ++ tracesExtractStack

/-! Warnings. -/

def warningsWarn : List String := [
  "import sys",
  "_ignored = []",
  "def warn(message, category=None, stacklevel=1, source=None):",
  "    if isinstance(message, Warning):",
  "        category = type(message)",
  "    category = category or UserWarning",
  "    if any(issubclass(category, kind) for kind in _ignored):",
  "        return",
  "    if category in (DeprecationWarning, PendingDeprecationWarning, ImportWarning):",
  "        return",
  "    path, line, text = _place(stacklevel)",
  "    sys.stderr.write('%s:%d: %s: %s\\n' % (path, line, category.__name__, message))",
  "    if text:",
  "        sys.stderr.write('  %s\\n' % text)"]

def warningsWarnExplicit : List String := [
  "def warn_explicit(message, category, filename, lineno, *args, **named):",
  "    sys.stderr.write('%s:%d: %s: %s\\n' % (filename, lineno, category.__name__, message))",
  "def filterwarnings(action, message='', category=Warning, module='', lineno=0, append=False):",
  "    if action == 'ignore' and not message:",
  "        _ignored.append(category)",
  "def simplefilter(action, category=Warning, lineno=0, append=False):",
  "    filterwarnings(action, '', category)",
  "def resetwarnings():",
  "    _ignored.clear()",
  "class catch_warnings:",
  "    def __init__(self, *, record=False, **named):",
  "        self.record = record",
  "    def __enter__(self):",
  "        self.kept = list(_ignored)",
  "        return [] if self.record else None",
  "    def __exit__(self, *args):",
  "        _ignored[:] = self.kept"]

def warnings : List String :=
  warningsWarn ++ warningsWarnExplicit

end ShaderCost.Script.Indented.Written
