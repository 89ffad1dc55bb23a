import ShaderCost.Text.Basic

/-!
Parts of the library that are told in the language itself: paths, files and directories.
-/

namespace ShaderCost.Script.Indented.Written

/-! Paths as texts. -/

def pathsText : List String := [
  "sep = '/'",
  "altsep = None",
  "pardir = '..'",
  "curdir = '.'",
  "extsep = '.'",
  "pathsep = ':'",
  "defpath = '/bin:/usr/bin'",
  "devnull = '/dev/null'",
  "supports_unicode_filenames = False",
  "def _text(path):",
  "    if isinstance(path, (str, bytes)):",
  "        return path",
  "    if hasattr(path, '__fspath__'):",
  "        return path.__fspath__()",
  "    raise TypeError('expected str, bytes or os.PathLike object, not ' + type(path).__name__)"]

def pathsJoin : List String := [
  "def join(a, *rest):",
  "    path = _text(a)",
  "    for b in rest:",
  "        b = _text(b)",
  "        if b.startswith('/'):",
  "            path = b",
  "        elif not path or path.endswith('/'):",
  "            path += b",
  "        else:",
  "            path += '/' + b",
  "    return path",
  "def split(path):",
  "    path = _text(path)",
  "    i = path.rfind('/') + 1",
  "    head, tail = path[:i], path[i:]",
  "    if head and head != '/' * len(head):",
  "        head = head.rstrip('/')",
  "    return head, tail"]

def pathsBasename : List String := [
  "def basename(path):",
  "    return split(path)[1]",
  "def dirname(path):",
  "    return split(path)[0]",
  "def splitext(path):",
  "    path = _text(path)",
  "    slash = path.rfind('/')",
  "    dot = path.rfind('.')",
  "    if dot > slash:",
  "        i = slash + 1",
  "        while i < dot:",
  "            if path[i] != '.':",
  "                return path[:dot], path[dot:]",
  "            i += 1",
  "    return path, ''"]

def pathsSplitdrive : List String := [
  "def splitdrive(path):",
  "    return '', _text(path)",
  "def isabs(path):",
  "    return _text(path).startswith('/')",
  "def normcase(path):",
  "    return _text(path)",
  "def normpath(path):",
  "    path = _text(path)",
  "    if path == '':",
  "        return '.'",
  "    initial = '/' if path.startswith('/') else ''",
  "    if path.startswith('//') and not path.startswith('///'):",
  "        initial = '//'",
  "    names = []",
  "    for name in path.split('/'):",
  "        if name in ('', '.'):",
  "            continue",
  "        if name != '..' or (not initial and not names) or (names and names[-1] == '..'):",
  "            names.append(name)",
  "        elif names:",
  "            names.pop()",
  "    return (initial + '/'.join(names)) or '.'"]

def pathsAbspath : List String := [
  "def abspath(path):",
  "    import os",
  "    path = _text(path)",
  "    if not isabs(path):",
  "        path = join(os.getcwd(), path)",
  "    return normpath(path)",
  "def realpath(path, *, strict=False):",
  "    import os",
  "    path = abspath(path)",
  "    done = '/'",
  "    names = [name for name in path.split('/') if name]",
  "    count = 0",
  "    while names:",
  "        name = names.pop(0)",
  "        if name == '..':",
  "            done = dirname(done)",
  "            continue",
  "        here = join(done, name)",
  "        if islink(here) and count < 40:",
  "            count += 1",
  "            target = os.readlink(here)",
  "            if target.startswith('/'):",
  "                done = '/'",
  "            names = [part for part in target.split('/') if part and part != '.'] + names",
  "        else:",
  "            if strict:",
  "                os.lstat(here)",
  "            done = here",
  "    return done"]

def pathsRelpath : List String := [
  "def relpath(path, start='.'):",
  "    if not path:",
  "        raise ValueError('no path specified')",
  "    first = [name for name in abspath(start).split('/') if name]",
  "    second = [name for name in abspath(path).split('/') if name]",
  "    i = len(commonprefix([first, second]))",
  "    names = ['..'] * (len(first) - i) + second[i:]",
  "    return join(*names) if names else '.'",
  "def commonprefix(items):",
  "    if not items:",
  "        return ''",
  "    low, high = min(items), max(items)",
  "    for i, c in enumerate(low):",
  "        if c != high[i]:",
  "            return low[:i]",
  "    return low"]

def pathsCommonpath : List String := [
  "def commonpath(paths):",
  "    parts = [[name for name in _text(path).split('/') if name not in ('', '.')]",
  "             for path in paths]",
  "    front = '/' if _text(paths[0]).startswith('/') else ''",
  "    return front + '/'.join(commonprefix(parts))",
  "def _mode(path, follows):",
  "    import os",
  "    try:",
  "        return (os.stat(path) if follows else os.lstat(path)).st_mode",
  "    except (OSError, ValueError):",
  "        return 0",
  "def exists(path):",
  "    return isinstance(path, int) or _mode(path, True) != 0"]

def pathsLexists : List String := [
  "def lexists(path):",
  "    return _mode(path, False) != 0",
  "def isfile(path):",
  "    return _mode(path, True) & 0o170000 == 0o100000",
  "def isdir(path):",
  "    return _mode(path, True) & 0o170000 == 0o040000",
  "def islink(path):",
  "    return _mode(path, False) & 0o170000 == 0o120000",
  "def ismount(path):",
  "    return abspath(path) == '/'",
  "def getsize(path):",
  "    import os",
  "    return os.stat(path).st_size"]

def pathsGetmtime : List String := [
  "def getmtime(path):",
  "    import os",
  "    return os.stat(path).st_mtime",
  "getatime = getctime = getmtime",
  "def samefile(a, b):",
  "    return realpath(a) == realpath(b)",
  "def expanduser(path):",
  "    import os",
  "    path = _text(path)",
  "    if path == '~' or path.startswith('~/'):",
  "        return os.environ.get('HOME', '/root').rstrip('/') + path[1:]",
  "    return path"]

def pathsExpandvars : List String := [
  "def expandvars(path):",
  "    import os, re",
  "    def value(found):",
  "        name = found.group(1) or found.group(2)",
  "        return os.environ.get(name, found.group(0))",
  "    return re.sub(r'\\$(?:(\\w+)|\\x7b(\\w+)\\x7d)', value, _text(path))"]

def paths : List String :=
  pathsText ++ pathsJoin ++ pathsBasename ++ pathsSplitdrive ++ pathsAbspath ++ pathsRelpath ++
    pathsCommonpath ++ pathsLexists ++ pathsGetmtime ++ pathsExpandvars

/-! The system. -/

def systemPathLike : List String := [
  "import posixpath as path",
  "import sys as _sys",
  "from posixpath import curdir, pardir, sep, pathsep, defpath, extsep, altsep, devnull",
  "name = 'posix'",
  "linesep = '\\n'",
  "error = OSError",
  "F_OK, R_OK, W_OK, X_OK = 0, 4, 2, 1",
  "O_RDONLY, O_WRONLY, O_RDWR, O_CREAT, O_EXCL, O_TRUNC, O_APPEND = 0, 1, 2, 64, 128, 512, 1024",
  "SEEK_SET, SEEK_CUR, SEEK_END = 0, 1, 2",
  "EX_OK, EX_USAGE, EX_DATAERR, EX_NOINPUT, EX_SOFTWARE = 0, 64, 65, 66, 70",
  "WNOHANG = 1",
  "class PathLike:",
  "    def __class_getitem__(cls, item):",
  "        return cls"]

def systemFspath : List String := [
  "def fspath(item):",
  "    return path._text(item)",
  "def fsencode(item):",
  "    item = fspath(item)",
  "    return item if isinstance(item, bytes) else item.encode('utf-8', 'surrogateescape')",
  "def fsdecode(item):",
  "    item = fspath(item)",
  "    return item if isinstance(item, str) else item.decode('utf-8', 'surrogateescape')",
  "class _Environ(dict):",
  "    def __getitem__(self, key):",
  "        if key not in self:",
  "            raise KeyError(key) from None",
  "        return dict.get(self, key)",
  "    def __setitem__(self, key, value):",
  "        if not isinstance(key, str):",
  "            raise TypeError('str expected, not ' + type(key).__name__)",
  "        if not isinstance(value, str):",
  "            raise TypeError('str expected, not ' + type(value).__name__)",
  "        putenv(key, value)",
  "        dict.__setitem__(self, key, value)",
  "    def __delitem__(self, key):",
  "        if key not in self:",
  "            raise KeyError(key) from None",
  "        unsetenv(key)",
  "        dict.__delitem__(self, key)",
  "    def pop(self, key, *usual):",
  "        if key in self:",
  "            value = dict.get(self, key)",
  "            del self[key]",
  "            return value",
  "        if usual:",
  "            return usual[0]",
  "        raise KeyError(key)"]

def systemSetdefault : List String := [
  "    def setdefault(self, key, value=None):",
  "        if key not in self:",
  "            self[key] = value",
  "        return self[key]",
  "    def update(self, *args, **named):",
  "        for key, value in dict(*args, **named).items():",
  "            self[key] = value",
  "    def clear(self):",
  "        for key in list(self):",
  "            del self[key]",
  "    def copy(self):",
  "        return dict(self)",
  "    def __repr__(self):",
  "        return 'environ(%r)' % dict(self)"]

def systemGetenv : List String := [
  "environ = _Environ(_variables())",
  "def getenv(key, default=None):",
  "    return environ.get(key, default)",
  "class stat_result(tuple):",
  "    def __new__(cls, values):",
  "        self = tuple.__new__(cls, values[:10])",
  "        self.st_mode, self.st_ino, self.st_dev, self.st_nlink = values[:4]",
  "        self.st_uid, self.st_gid, self.st_size = values[4:7]",
  "        self.st_atime, self.st_mtime, self.st_ctime = [float(value) for value in values[7:10]]",
  "        self.st_mtime_ns = int(values[8]) * 1000000000",
  "        return self",
  "def stat(path, *, dir_fd=None, follow_symlinks=True):",
  "    return stat_result(_stat(path) if follow_symlinks else _lstat(path))"]

def systemLstat : List String := [
  "def lstat(path, *, dir_fd=None):",
  "    return stat_result(_lstat(path))",
  "def makedirs(name, mode=0o777, exist_ok=False):",
  "    head, tail = path.split(name)",
  "    if not tail:",
  "        head, tail = path.split(head)",
  "    if head and tail and not path.exists(head):",
  "        makedirs(head, mode, True)",
  "    try:",
  "        mkdir(name, mode)",
  "    except OSError:",
  "        if not exist_ok or not path.isdir(name):",
  "            raise"]

def systemRemovedirs : List String := [
  "def removedirs(name):",
  "    rmdir(name)",
  "    head, tail = path.split(name)",
  "    while head and tail:",
  "        try:",
  "            rmdir(head)",
  "        except OSError:",
  "            break",
  "        head, tail = path.split(head)",
  "class DirEntry:",
  "    def __init__(self, name, path):",
  "        self.name = name",
  "        self.path = path",
  "    def __fspath__(self):",
  "        return self.path",
  "    def is_file(self, *, follow_symlinks=True):",
  "        return path.isfile(self.path)",
  "    def is_dir(self, *, follow_symlinks=True):",
  "        return path.isdir(self.path)",
  "    def is_symlink(self):",
  "        return path.islink(self.path)",
  "    def stat(self, *, follow_symlinks=True):",
  "        return stat(self.path, follow_symlinks=follow_symlinks)",
  "    def __repr__(self):",
  "        return '<DirEntry %r>' % self.name"]

def systemScan : List String := [
  "class _Scan:",
  "    def __init__(self, top):",
  "        self.entries = iter([DirEntry(name, path.join(top, name)) for name in listdir(top)])",
  "    def __iter__(self):",
  "        return self",
  "    def __next__(self):",
  "        return next(self.entries)",
  "    def __enter__(self):",
  "        return self",
  "    def __exit__(self, *args):",
  "        pass",
  "    def close(self):",
  "        pass"]

def systemScandir : List String := [
  "def scandir(top='.'):",
  "    return _Scan(top)",
  "def walk(top, topdown=True, onerror=None, followlinks=False):",
  "    top = fspath(top)",
  "    dirs, files = [], []",
  "    try:",
  "        names = listdir(top)",
  "    except OSError as error:",
  "        if onerror is not None:",
  "            onerror(error)",
  "        return",
  "    for name in names:",
  "        (dirs if path.isdir(path.join(top, name)) else files).append(name)",
  "    if topdown:",
  "        yield top, dirs, files",
  "    for name in dirs:",
  "        below = path.join(top, name)",
  "        if followlinks or not path.islink(below):",
  "            yield from walk(below, topdown, onerror, followlinks)",
  "    if not topdown:",
  "        yield top, dirs, files"]

def systemSystem : List String := [
  "def system(command):",
  "    import subprocess",
  "    status = subprocess.call(command, shell=True)",
  "    return status * 256 if status >= 0 else -status",
  "class _Pipe:",
  "    def __init__(self, process, stream):",
  "        self.process = process",
  "        self.stream = stream",
  "    def __getattr__(self, name):",
  "        return getattr(self.stream, name)",
  "    def __iter__(self):",
  "        return iter(self.stream)",
  "    def __enter__(self):",
  "        return self",
  "    def __exit__(self, *args):",
  "        self.close()",
  "    def close(self):",
  "        self.stream.close()",
  "        status = self.process.wait()",
  "        if status == 0:",
  "            return None",
  "        return status * 256 if status > 0 else status"]

def systemPopen : List String := [
  "def popen(command, mode='r', buffering=-1):",
  "    import subprocess",
  "    if mode == 'r':",
  "        process = subprocess.Popen(command, shell=True, text=True, stdout=subprocess.PIPE)",
  "        return _Pipe(process, process.stdout)",
  "    process = subprocess.Popen(command, shell=True, text=True, stdin=subprocess.PIPE)",
  "    return _Pipe(process, process.stdin)",
  "def execl(file, *args):",
  "    execv(file, args)",
  "def execlp(file, *args):",
  "    execvp(file, args)",
  "def WIFEXITED(status):",
  "    return status & 127 == 0"]

def systemWEXITSTATUS : List String := [
  "def WEXITSTATUS(status):",
  "    return status >> 8 & 255",
  "def WIFSIGNALED(status):",
  "    return status & 127 != 0",
  "def WTERMSIG(status):",
  "    return status & 127",
  "def waitstatus_to_exitcode(status):",
  "    return WEXITSTATUS(status) if WIFEXITED(status) else -WTERMSIG(status)",
  "class terminal_size(tuple):",
  "    def __new__(cls, values):",
  "        self = tuple.__new__(cls, values)",
  "        self.columns, self.lines = self",
  "        return self"]

def systemGetTerminalSize : List String := [
  "def get_terminal_size(fd=1):",
  "    raise OSError(25, 'Inappropriate ioctl for device')",
  "class uname_result(tuple):",
  "    def __new__(cls, values):",
  "        self = tuple.__new__(cls, values)",
  "        self.sysname, self.nodename, self.release, self.version, self.machine = self",
  "        return self",
  "def uname():",
  "    return uname_result(('Linux', 'localhost', '5.15.0', '#1 SMP', 'x86_64'))",
  "def getlogin():",
  "    raise OSError(6, 'No such device or address')",
  "def nice(increment):",
  "    return increment"]

def systemSchedGetaffinity : List String := [
  "def sched_getaffinity(pid):",
  "    return set(range(cpu_count()))",
  "def getloadavg():",
  "    return (0.0, 0.0, 0.0)",
  "def fsync(fd):",
  "    pass",
  "def open(path, flags, mode=0o777, *, dir_fd=None):",
  "    letters = 'w' if flags & O_TRUNC or flags & O_CREAT and flags & 3 else 'r'",
  "    if flags & O_APPEND:",
  "        letters = 'a'",
  "    if flags & O_EXCL:",
  "        letters = 'x'",
  "    if flags & 3 == O_RDWR:",
  "        letters += '+'",
  "    file = _open(path, letters + 'b', 0)",
  "    _opened.append(file)",
  "    return file.fileno()",
  "_opened = []"]

def system : List String :=
  systemPathLike ++ systemFspath ++ systemSetdefault ++ systemGetenv ++ systemLstat ++
    systemRemovedirs ++ systemScan ++ systemScandir ++ systemSystem ++ systemPopen ++
    systemWEXITSTATUS ++ systemGetTerminalSize ++ systemSchedGetaffinity

/-! Names of files that patterns stand for. -/

def matchingTranslate : List String := [
  "import re",
  "def translate(pattern):",
  "    text = ''",
  "    place = 0",
  "    while place < len(pattern):",
  "        c = pattern[place]",
  "        place += 1",
  "        if c == '*':",
  "            text += '.*'",
  "        elif c == '?':",
  "            text += '.'",
  "        elif c == '[':",
  "            stop = place",
  "            if pattern[stop:stop + 1] == '!':",
  "                stop += 1",
  "            if pattern[stop:stop + 1] == ']':",
  "                stop += 1",
  "            while stop < len(pattern) and pattern[stop] != ']':",
  "                stop += 1",
  "            if stop >= len(pattern):",
  "                text += '\\\\['",
  "            else:",
  "                inner = pattern[place:stop].replace('\\\\', '\\\\\\\\')",
  "                place = stop + 1",
  "                if inner[0] == '!':",
  "                    inner = '^' + inner[1:]",
  "                elif inner[0] in ('^', '['):",
  "                    inner = '\\\\' + inner",
  "                text += '[' + inner + ']'",
  "        else:",
  "            text += re.escape(c)",
  "    return '(?s:' + text + ')\\\\Z'"]

def matchingFnmatchcase : List String := [
  "def fnmatchcase(name, pattern):",
  "    return re.match(translate(pattern), name) is not None",
  "fnmatch = fnmatchcase",
  "def filter(names, pattern):",
  "    compiled = re.compile(translate(pattern))",
  "    return [name for name in names if compiled.match(name)]"]

def matching : List String :=
  matchingTranslate ++ matchingFnmatchcase

/-! Files that patterns stand for. -/

def globbingHasMagic : List String := [
  "import os, fnmatch, re",
  "def has_magic(text):",
  "    return re.search('[*?[]', text) is not None",
  "def escape(text):",
  "    return re.sub('([*?[])', r'[\\1]', text)",
  "def _listed(path):",
  "    try:",
  "        return os.listdir(path or '.')",
  "    except OSError:",
  "        return []",
  "def _deep(path, hidden):",
  "    yield path",
  "    for name in _listed(path):",
  "        if hidden or not name.startswith('.'):",
  "            inner = os.path.join(path, name)",
  "            if os.path.isdir(inner):",
  "                yield from _deep(inner, hidden)",
  "            else:",
  "                yield inner"]

def globbingFound : List String := [
  "def _found(front, names, recursive, hidden):",
  "    if not names:",
  "        if os.path.lexists(front):",
  "            yield front",
  "        return",
  "    name, rest = names[0], names[1:]",
  "    if recursive and name == '**':",
  "        for path in _deep(front, hidden):",
  "            if not rest:",
  "                if path or front:",
  "                    yield path + '/' if path == front and path else path",
  "            elif os.path.isdir(path or '.'):",
  "                yield from _found(path, rest, recursive, hidden)",
  "    elif has_magic(name):",
  "        for entry in fnmatch.filter(_listed(front), name):",
  "            if hidden or not entry.startswith('.') or name.startswith('.'):",
  "                path = os.path.join(front, entry)",
  "                if not rest:",
  "                    yield path",
  "                elif os.path.isdir(path):",
  "                    yield from _found(path, rest, recursive, hidden)",
  "    elif name:",
  "        yield from _found(os.path.join(front, name), rest, recursive, hidden)",
  "    elif os.path.isdir(front):",
  "        yield front + '/'"]

def globbingIglob : List String := [
  "def iglob(pathname, *, root_dir=None, dir_fd=None, recursive=False, include_hidden=False):",
  "    pathname = os.fspath(pathname)",
  "    front = ''",
  "    if root_dir is not None:",
  "        pathname = os.path.join(root_dir, pathname)",
  "    names = pathname.split('/')",
  "    if pathname.startswith('/'):",
  "        front, names = '/', pathname.lstrip('/').split('/')",
  "    for path in _found(front, names, recursive, include_hidden):",
  "        if path:",
  "            yield path if root_dir is None else os.path.relpath(path, root_dir)",
  "def glob(pathname, **named):",
  "    return list(iglob(pathname, **named))"]

def globbing : List String :=
  globbingHasMagic ++ globbingFound ++ globbingIglob

/-! Facts about files. -/

def factsSIFMT : List String := [
  "S_IFDIR, S_IFCHR, S_IFBLK, S_IFREG, S_IFIFO = 0o040000, 0o020000, 0o060000, 0o100000, 0o010000",
  "S_IFLNK, S_IFSOCK = 0o120000, 0o140000",
  "S_ISUID, S_ISGID, S_ISVTX = 0o4000, 0o2000, 0o1000",
  "S_IRWXU, S_IRUSR, S_IWUSR, S_IXUSR = 0o700, 0o400, 0o200, 0o100",
  "S_IRWXG, S_IRGRP, S_IWGRP, S_IXGRP = 0o070, 0o040, 0o020, 0o010",
  "S_IRWXO, S_IROTH, S_IWOTH, S_IXOTH = 0o007, 0o004, 0o002, 0o001",
  "S_IREAD, S_IWRITE, S_IEXEC = S_IRUSR, S_IWUSR, S_IXUSR",
  "ST_MODE, ST_INO, ST_DEV, ST_NLINK, ST_UID = range(5)",
  "ST_GID, ST_SIZE, ST_ATIME, ST_MTIME, ST_CTIME = range(5, 10)",
  "def S_IFMT(mode): return mode & 0o170000",
  "def S_IMODE(mode): return mode & 0o7777",
  "def S_ISDIR(mode): return S_IFMT(mode) == S_IFDIR"]

def factsSISREG : List String := [
  "def S_ISREG(mode): return S_IFMT(mode) == S_IFREG",
  "def S_ISLNK(mode): return S_IFMT(mode) == S_IFLNK",
  "def S_ISFIFO(mode): return S_IFMT(mode) == S_IFIFO",
  "def S_ISCHR(mode): return S_IFMT(mode) == S_IFCHR",
  "def filemode(mode):",
  "    kinds = dict([(S_IFDIR, 'd'), (S_IFREG, '-'), (S_IFLNK, 'l'), (S_IFIFO, 'p'),",
  "                  (S_IFCHR, 'c')])",
  "    text = kinds.get(S_IFMT(mode), '?')",
  "    for place in range(8, -1, -1):",
  "        text += 'xwr'[place % 3] if mode >> place & 1 else '-'",
  "    return text"]

def facts : List String :=
  factsSIFMT ++ factsSISREG

/-! Copies of files and directories. -/

def copyingError : List String := [
  "import os, sys, fnmatch",
  "class Error(OSError):",
  "    pass",
  "class SameFileError(Error):",
  "    pass",
  "def copyfileobj(source, target, length=0):",
  "    while True:",
  "        data = source.read(65536)",
  "        if not data:",
  "            break",
  "        target.write(data)",
  "def copyfile(src, dst, *, follow_symlinks=True):",
  "    if os.path.exists(dst) and os.path.samefile(src, dst):",
  "        raise SameFileError('%r and %r are the same file' % (src, dst))",
  "    with open(src, 'rb') as source, open(dst, 'wb') as target:",
  "        copyfileobj(source, target)",
  "    return dst"]

def copyingCopymode : List String := [
  "def copymode(src, dst, *, follow_symlinks=True):",
  "    os.chmod(dst, os.stat(src).st_mode & 0o7777)",
  "copystat = copymode",
  "def copy(src, dst, *, follow_symlinks=True):",
  "    if os.path.isdir(dst):",
  "        dst = os.path.join(dst, os.path.basename(src))",
  "    copyfile(src, dst)",
  "    copymode(src, dst)",
  "    return dst",
  "copy2 = copy",
  "def ignore_patterns(*patterns):",
  "    def ignore(path, names):",
  "        return set(name for name in names if any(fnmatch.fnmatch(name, p) for p in patterns))",
  "    return ignore"]

def copyingCopytree : List String := [
  "def copytree(src, dst, symlinks=False, ignore=None, copy_function=copy2,",
  "             ignore_dangling_symlinks=False, dirs_exist_ok=False):",
  "    names = os.listdir(src)",
  "    left = ignore(src, names) if ignore is not None else set()",
  "    os.makedirs(dst, exist_ok=dirs_exist_ok)",
  "    for name in names:",
  "        if name in left:",
  "            continue",
  "        source, target = os.path.join(src, name), os.path.join(dst, name)",
  "        if os.path.isdir(source):",
  "            copytree(source, target, symlinks, ignore, copy_function, False, dirs_exist_ok)",
  "        else:",
  "            copy_function(source, target)",
  "    return dst"]

def copyingRmtree : List String := [
  "def rmtree(path, ignore_errors=False, onerror=None, *, onexc=None, dir_fd=None):",
  "    try:",
  "        for name in os.listdir(path):",
  "            inner = os.path.join(path, name)",
  "            if os.path.isdir(inner) and not os.path.islink(inner):",
  "                rmtree(inner, ignore_errors, onerror, onexc=onexc)",
  "            else:",
  "                os.unlink(inner)",
  "        os.rmdir(path)",
  "    except OSError as error:",
  "        if onexc is not None:",
  "            onexc(os.rmdir, path, error)",
  "        elif onerror is not None:",
  "            onerror(os.rmdir, path, sys.exc_info())",
  "        elif not ignore_errors:",
  "            raise"]

def copyingMove : List String := [
  "def move(src, dst, copy_function=copy2):",
  "    target = dst",
  "    if os.path.isdir(dst):",
  "        target = os.path.join(dst, os.path.basename(str(src).rstrip('/')))",
  "        if os.path.exists(target):",
  "            raise Error(\"Destination path '%s' already exists\" % target)",
  "    os.rename(src, target)",
  "    return target",
  "def which(cmd, mode=1, path=None):",
  "    cmd = os.fspath(cmd)",
  "    def usable(name):",
  "        return os.path.exists(name) and os.access(name, mode) and not os.path.isdir(name)",
  "    if os.path.dirname(cmd):",
  "        return cmd if usable(cmd) else None",
  "    places = os.environ.get('PATH', os.defpath) if path is None else os.fspath(path)",
  "    for place in places.split(':'):",
  "        name = os.path.join(place, cmd)",
  "        if usable(name):",
  "            return name",
  "    return None"]

def copyingGetTerminalSize : List String := [
  "def get_terminal_size(fallback=(80, 24)):",
  "    columns = int(os.environ.get('COLUMNS', 0) or 0)",
  "    lines = int(os.environ.get('LINES', 0) or 0)",
  "    return os.terminal_size((columns or fallback[0], lines or fallback[1]))",
  "class _Usage(tuple):",
  "    def __new__(cls, values):",
  "        self = tuple.__new__(cls, values)",
  "        self.total, self.used, self.free = self",
  "        return self",
  "def disk_usage(path):",
  "    return _Usage((10 ** 11, 4 * 10 ** 10, 6 * 10 ** 10))",
  "def chown(path, user=None, group=None):",
  "    pass"]

def copying : List String :=
  copyingError ++ copyingCopymode ++ copyingCopytree ++ copyingRmtree ++ copyingMove ++
    copyingGetTerminalSize

/-! Files that are not kept. -/

def temporaryGettempdir : List String := [
  "import os, io",
  "tempdir = None",
  "template = 'tmp'",
  "_count = 0",
  "def gettempdir():",
  "    return tempdir or os.environ.get('TMPDIR') or '/tmp'",
  "def gettempprefix():",
  "    return template",
  "def _name(prefix, suffix, dir):",
  "    global _count",
  "    letters = 'abcdefghijklmnopqrstuvwxyz0123456789_'",
  "    while True:",
  "        _count += 1",
  "        number = (os.getpid() * 7919 + _count * 104729) * 2654435761",
  "        middle = ''",
  "        for _ in range(8):",
  "            number, place = divmod(number, len(letters))",
  "            middle += letters[place]",
  "            number += 48271 * (place + 1)",
  "        name = (prefix or template) + middle + (suffix or '')",
  "        path = os.path.join(dir or gettempdir(), name)",
  "        if not os.path.lexists(path):",
  "            return os.path.abspath(path)"]

def temporaryMktemp : List String := [
  "def mktemp(suffix='', prefix=template, dir=None):",
  "    return _name(prefix, suffix, dir)",
  "def mkdtemp(suffix=None, prefix=None, dir=None):",
  "    path = _name(prefix, suffix, dir)",
  "    os.mkdir(path, 0o700)",
  "    return path",
  "def mkstemp(suffix=None, prefix=None, dir=None, text=False):",
  "    path = _name(prefix, suffix, dir)",
  "    return os.open(path, os.O_RDWR | os.O_CREAT | os.O_EXCL), path",
  "class TemporaryDirectory:",
  "    def __init__(self, suffix=None, prefix=None, dir=None, ignore_cleanup_errors=False, *,",
  "                 delete=True):",
  "        self.name = mkdtemp(suffix, prefix, dir)",
  "    def __enter__(self):",
  "        return self.name",
  "    def __exit__(self, *args):",
  "        self.cleanup()",
  "    def cleanup(self):",
  "        import shutil",
  "        shutil.rmtree(self.name, ignore_errors=True)"]

def temporaryWrapper : List String := [
  "class _Wrapper:",
  "    def __init__(self, file, name, delete):",
  "        self.file = file",
  "        self.name = name",
  "        self.delete = delete",
  "    def __getattr__(self, name):",
  "        return getattr(self.file, name)",
  "    def __iter__(self):",
  "        return iter(self.file)",
  "    def __enter__(self):",
  "        return self",
  "    def __exit__(self, *args):",
  "        self.close()",
  "    def close(self):",
  "        self.file.close()",
  "        if self.delete and os.path.exists(self.name):",
  "            os.unlink(self.name)"]

def temporaryNamedTemporaryFile : List String := [
  "def NamedTemporaryFile(mode='w+b', buffering=-1, encoding=None, newline=None, suffix=None,",
  "                       prefix=None, dir=None, delete=True, *, errors=None,",
  "                       delete_on_close=True):",
  "    path = _name(prefix, suffix, dir)",
  "    return _Wrapper(open(path, mode, buffering, encoding, errors, newline), path, delete)",
  "def TemporaryFile(mode='w+b', buffering=-1, encoding=None, *args, **named):",
  "    return NamedTemporaryFile(mode, buffering, encoding)",
  "def SpooledTemporaryFile(max_size=0, mode='w+b', *args, **named):",
  "    return io.BytesIO() if 'b' in mode else io.StringIO()"]

def temporary : List String :=
  temporaryGettempdir ++ temporaryMktemp ++ temporaryWrapper ++ temporaryNamedTemporaryFile

/-! Paths as values. -/

def pathObjectsPurePath : List String := [
  "import os, fnmatch, io",
  "class PurePath:",
  "    def __new__(cls, *parts):",
  "        self = object.__new__(PosixPath if cls is Path else cls)",
  "        return self",
  "    def __init__(self, *parts):",
  "        texts = []",
  "        for part in parts:",
  "            if isinstance(part, PurePath):",
  "                part = str(part)",
  "            elif hasattr(part, '__fspath__'):",
  "                part = part.__fspath__()",
  "            if not isinstance(part, str):",
  "                raise TypeError(\"argument should be a str or an os.PathLike object where \"",
  "                                \"__fspath__ returns a str, not %r\" % type(part).__name__)",
  "            texts.append(part)",
  "        path = os.path.join(*texts) if texts else ''",
  "        root = '/' if path.startswith('/') else ''",
  "        if path.startswith('//') and not path.startswith('///'):",
  "            root = '//'",
  "        names = [name for name in path.split('/') if name and name != '.']",
  "        self._root = root",
  "        self._names = names",
  "    def _made(self, root, names):",
  "        made = self.__class__()",
  "        made._root = root",
  "        made._names = names",
  "        return made",
  "    def __fspath__(self):",
  "        return str(self)",
  "    def __str__(self):",
  "        return self._root + '/'.join(self._names) or '.'",
  "    def __repr__(self):",
  "        return '%s(%r)' % (self.__class__.__name__, str(self))",
  "    def __bytes__(self):",
  "        return os.fsencode(self)"]

def pathObjectsAsPosix : List String := [
  "    def __hash__(self):",
  "        return hash(str(self))",
  "    def __eq__(self, other):",
  "        if not isinstance(other, PurePath):",
  "            return NotImplemented",
  "        return str(self) == str(other)",
  "    def __lt__(self, other):",
  "        return self.parts < other.parts",
  "    def __le__(self, other):",
  "        return self.parts <= other.parts",
  "    def __gt__(self, other):",
  "        return self.parts > other.parts",
  "    def __ge__(self, other):",
  "        return self.parts >= other.parts",
  "    def __truediv__(self, other):",
  "        if not isinstance(other, (str, PurePath)) and not hasattr(other, '__fspath__'):",
  "            return NotImplemented",
  "        return self.__class__(self, other)",
  "    def __rtruediv__(self, other):",
  "        return self.__class__(other, self)",
  "    def as_posix(self):",
  "        return str(self)",
  "    def as_uri(self):",
  "        return 'file://' + str(self)",
  "    @property",
  "    def parts(self):",
  "        return ((self._root,) if self._root else ()) + tuple(self._names)",
  "    @property",
  "    def root(self):",
  "        return self._root",
  "    @property",
  "    def anchor(self):",
  "        return self._root",
  "    @property",
  "    def drive(self):",
  "        return ''"]

def pathObjectsName : List String := [
  "    @property",
  "    def name(self):",
  "        return self._names[-1] if self._names else ''",
  "    @property",
  "    def suffix(self):",
  "        name = self.name",
  "        place = name.rfind('.')",
  "        return name[place:] if 0 < place < len(name) - 1 else ''",
  "    @property",
  "    def suffixes(self):",
  "        name = self.name",
  "        if name.endswith('.'):",
  "            return []",
  "        return ['.' + part for part in name.lstrip('.').split('.')[1:]]",
  "    @property",
  "    def stem(self):",
  "        name = self.name",
  "        place = name.rfind('.')",
  "        return name[:place] if 0 < place < len(name) - 1 else name",
  "    @property",
  "    def parent(self):",
  "        if not self._names:",
  "            return self",
  "        return self._made(self._root, self._names[:-1])",
  "    @property",
  "    def parents(self):",
  "        found = []",
  "        path = self",
  "        while path._names:",
  "            path = path.parent",
  "            found.append(path)",
  "        return tuple(found)",
  "    def with_name(self, name):",
  "        if not self.name:",
  "            raise ValueError('%r has an empty name' % (self,))",
  "        return self._made(self._root, self._names[:-1] + [name])"]

def pathObjectsWithStem : List String := [
  "    def with_stem(self, stem):",
  "        return self.with_name(stem + self.suffix)",
  "    def with_suffix(self, suffix):",
  "        if suffix and not suffix.startswith('.') or suffix == '.':",
  "            raise ValueError('Invalid suffix %r' % suffix)",
  "        return self.with_name(self.stem + suffix)",
  "    def joinpath(self, *others):",
  "        return self.__class__(self, *others)",
  "    def is_absolute(self):",
  "        return bool(self._root)",
  "    def is_relative_to(self, other, *more):",
  "        other = self.__class__(other, *more)",
  "        return other._root == self._root and self._names[:len(other._names)] == other._names",
  "    def relative_to(self, other, *more, walk_up=False):",
  "        other = self.__class__(other, *more)",
  "        if not self.is_relative_to(other):",
  "            raise ValueError('%r is not in the subpath of %r' % (str(self), str(other)))",
  "        return self._made('', self._names[len(other._names):])",
  "    def match(self, pattern):",
  "        names = PurePath(pattern)._names",
  "        mine = self._names[len(self._names) - len(names):]",
  "        return len(names) <= len(self._names) and all(map(fnmatch.fnmatchcase, mine, names))"]

def pathObjectsPurePosixPath : List String := [
  "class PurePosixPath(PurePath):",
  "    pass",
  "class Path(PurePath):",
  "    @classmethod",
  "    def cwd(cls):",
  "        return cls(os.getcwd())",
  "    @classmethod",
  "    def home(cls):",
  "        return cls(os.path.expanduser('~'))",
  "    def stat(self, *, follow_symlinks=True):",
  "        return os.stat(str(self), follow_symlinks=follow_symlinks)",
  "    def lstat(self):",
  "        return os.lstat(str(self))",
  "    def exists(self, *, follow_symlinks=True):",
  "        return os.path.exists(str(self))",
  "    def is_file(self):",
  "        return os.path.isfile(str(self))",
  "    def is_dir(self):",
  "        return os.path.isdir(str(self))",
  "    def is_symlink(self):",
  "        return os.path.islink(str(self))",
  "    def open(self, mode='r', buffering=-1, encoding=None, errors=None, newline=None):",
  "        return open(str(self), mode, buffering, encoding, errors, newline)",
  "    def read_text(self, encoding=None, errors=None):",
  "        with self.open('r', encoding=encoding, errors=errors) as file:",
  "            return file.read()",
  "    def read_bytes(self):",
  "        with self.open('rb') as file:",
  "            return file.read()",
  "    def write_text(self, data, encoding=None, errors=None, newline=None):",
  "        if not isinstance(data, str):",
  "            raise TypeError('data must be str, not %s' % type(data).__name__)",
  "        with self.open('w', encoding=encoding, errors=errors, newline=newline) as file:",
  "            return file.write(data)"]

def pathObjectsWriteBytes : List String := [
  "    def write_bytes(self, data):",
  "        with self.open('wb') as file:",
  "            return file.write(data)",
  "    def iterdir(self):",
  "        for name in os.listdir(str(self)):",
  "            yield self / name",
  "    def _below(self, names):",
  "        if not names:",
  "            yield self",
  "            return",
  "        name, rest = names[0], names[1:]",
  "        if name == '**':",
  "            yield from self._below(rest)",
  "            for path in sorted(self.iterdir()) if self.is_dir() else []:",
  "                if path.is_dir() and not path.is_symlink():",
  "                    yield from path._below(names)",
  "        elif any(c in name for c in '*?['):",
  "            for path in self.iterdir() if self.is_dir() else []:",
  "                if fnmatch.fnmatchcase(path.name, name) and (not rest or path.is_dir()):",
  "                    yield from path._below(rest)",
  "        elif (self / name).exists():",
  "            yield from (self / name)._below(rest)",
  "    def glob(self, pattern, *, case_sensitive=None):",
  "        return self._below(PurePath(pattern)._names)",
  "    def rglob(self, pattern, *, case_sensitive=None):",
  "        return self._below(['**'] + PurePath(pattern)._names)"]

def pathObjectsMkdir : List String := [
  "    def mkdir(self, mode=0o777, parents=False, exist_ok=False):",
  "        try:",
  "            os.mkdir(str(self), mode)",
  "        except FileNotFoundError:",
  "            if not parents or self.parent == self:",
  "                raise",
  "            self.parent.mkdir(parents=True, exist_ok=True)",
  "            self.mkdir(mode, parents=False, exist_ok=exist_ok)",
  "        except OSError:",
  "            if not exist_ok or not self.is_dir():",
  "                raise",
  "    def touch(self, mode=0o666, exist_ok=True):",
  "        if self.exists():",
  "            if not exist_ok:",
  "                raise FileExistsError(17, 'File exists', str(self))",
  "            os.utime(str(self))",
  "        else:",
  "            self.open('a').close()",
  "    def unlink(self, missing_ok=False):",
  "        try:",
  "            os.unlink(str(self))",
  "        except FileNotFoundError:",
  "            if not missing_ok:",
  "                raise",
  "    def rmdir(self):",
  "        os.rmdir(str(self))",
  "    def rename(self, target):",
  "        os.rename(str(self), os.fspath(target))",
  "        return self.__class__(target)",
  "    def replace(self, target):",
  "        os.replace(str(self), os.fspath(target))",
  "        return self.__class__(target)",
  "    def symlink_to(self, target, target_is_directory=False):",
  "        os.symlink(os.fspath(target), str(self))",
  "    def hardlink_to(self, target):",
  "        os.link(os.fspath(target), str(self))"]

def pathObjectsReadlink : List String := [
  "    def readlink(self):",
  "        return self.__class__(os.readlink(str(self)))",
  "    def chmod(self, mode, *, follow_symlinks=True):",
  "        os.chmod(str(self), mode)",
  "    def resolve(self, strict=False):",
  "        return self.__class__(os.path.realpath(str(self), strict=strict))",
  "    def absolute(self):",
  "        if self.is_absolute():",
  "            return self",
  "        return self.__class__(os.getcwd(), self)",
  "    def expanduser(self):",
  "        return self.__class__(os.path.expanduser(str(self)))",
  "    def samefile(self, other):",
  "        return os.path.samefile(str(self), os.fspath(other))",
  "    def owner(self):",
  "        return 'root'",
  "    def walk(self, top_down=True, on_error=None, follow_symlinks=False):",
  "        for top, dirs, files in os.walk(str(self), top_down, on_error, follow_symlinks):",
  "            yield self.__class__(top), dirs, files",
  "    def __enter__(self):",
  "        return self",
  "    def __exit__(self, *args):",
  "        pass"]

def pathObjectsPosixPath : List String := [
  "class PosixPath(Path, PurePosixPath):",
  "    pass"]

def pathObjects : List String :=
  pathObjectsPurePath ++ pathObjectsAsPosix ++ pathObjectsName ++ pathObjectsWithStem ++
    pathObjectsPurePosixPath ++ pathObjectsWriteBytes ++ pathObjectsMkdir ++
    pathObjectsReadlink ++ pathObjectsPosixPath

/-! What is used like a file. -/

def streamsIOBase : List String := [
  "SEEK_SET, SEEK_CUR, SEEK_END = 0, 1, 2",
  "DEFAULT_BUFFER_SIZE = 8192",
  "BlockingIOError = BlockingIOError",
  "class IOBase:",
  "    def __enter__(self):",
  "        return self",
  "    def __exit__(self, *args):",
  "        self.close()",
  "    def __iter__(self):",
  "        return self",
  "    def __next__(self):",
  "        line = self.readline()",
  "        if not line:",
  "            raise StopIteration",
  "        return line",
  "    def close(self):",
  "        pass",
  "    def flush(self):",
  "        pass",
  "    def readable(self):",
  "        return False",
  "    def writable(self):",
  "        return False",
  "    def seekable(self):",
  "        return False",
  "    def isatty(self):",
  "        return False"]

def streamsRawIOBase : List String := [
  "class RawIOBase(IOBase):",
  "    pass",
  "class BufferedIOBase(IOBase):",
  "    pass",
  "class TextIOBase(IOBase):",
  "    pass"]

def streams : List String :=
  streamsIOBase ++ streamsRawIOBase

end ShaderCost.Script.Indented.Written
