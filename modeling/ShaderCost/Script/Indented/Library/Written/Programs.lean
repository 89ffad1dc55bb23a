import ShaderCost.Text.Basic

/-!
Parts of the library that are told in the language itself: other programs, and routines at the same
time.
-/

namespace ShaderCost.Script.Indented.Written

/-! Other programs. -/

def programsSubprocessError : List String := [
  "import io, os, sys, time, atexit",
  "PIPE, STDOUT, DEVNULL = -1, -2, -3",
  "class SubprocessError(Exception):",
  "    pass",
  "class CalledProcessError(SubprocessError):",
  "    def __init__(self, returncode, cmd, output=None, stderr=None):",
  "        self.returncode = returncode",
  "        self.cmd = cmd",
  "        self.output = output",
  "        self.stderr = stderr",
  "    def __str__(self):",
  "        if self.returncode and self.returncode < 0:",
  "            import signal",
  "            try:",
  "                signal = signal.Signals(-self.returncode)",
  "                return \"Command '%s' died with %r.\" % (self.cmd, signal)",
  "            except ValueError:",
  "                text = \"Command '%s' died with unknown signal %d.\"",
  "                return text % (self.cmd, -self.returncode)",
  "        return \"Command '%s' returned non-zero exit status %d.\" % (self.cmd, self.returncode)",
  "    @property",
  "    def stdout(self):",
  "        return self.output",
  "    @stdout.setter",
  "    def stdout(self, value):",
  "        self.output = value"]

def programsTimeoutExpired : List String := [
  "class TimeoutExpired(SubprocessError):",
  "    def __init__(self, cmd, timeout, output=None, stderr=None):",
  "        self.cmd = cmd",
  "        self.timeout = timeout",
  "        self.output = output",
  "        self.stderr = stderr",
  "    def __str__(self):",
  "        return \"Command '%s' timed out after %s seconds\" % (self.cmd, self.timeout)",
  "    @property",
  "    def stdout(self):",
  "        return self.output",
  "class CompletedProcess:",
  "    def __init__(self, args, returncode, stdout=None, stderr=None):",
  "        self.args = args",
  "        self.returncode = returncode",
  "        self.stdout = stdout",
  "        self.stderr = stderr",
  "    def __repr__(self):",
  "        parts = ['args=%r' % (self.args,), 'returncode=%r' % (self.returncode,)]",
  "        if self.stdout is not None:",
  "            parts.append('stdout=%r' % (self.stdout,))",
  "        if self.stderr is not None:",
  "            parts.append('stderr=%r' % (self.stderr,))",
  "        return 'CompletedProcess(%s)' % ', '.join(parts)",
  "    def check_returncode(self):",
  "        if self.returncode:",
  "            raise CalledProcessError(self.returncode, self.args, self.stdout, self.stderr)"]

def programsInlet : List String := [
  "class _Inlet:",
  "    def __init__(self, process):",
  "        self.process = process",
  "        self.parts = []",
  "        self.closed = False",
  "    def write(self, data):",
  "        self.parts.append(data.encode('utf-8') if isinstance(data, str) else bytes(data))",
  "        return len(data)",
  "    def writelines(self, lines):",
  "        for line in lines:",
  "            self.write(line)",
  "    def flush(self):",
  "        pass",
  "    def close(self):",
  "        self.closed = True",
  "    def __enter__(self):",
  "        return self",
  "    def __exit__(self, *args):",
  "        self.close()"]

def programsWords : List String := [
  "def _words(args, shell, executable):",
  "    if isinstance(args, (str, bytes)) or hasattr(args, '__fspath__'):",
  "        args = [os.fspath(args)]",
  "    else:",
  "        args = [os.fspath(arg) for arg in args]",
  "    if shell:",
  "        args = [executable or '/bin/sh', '-c'] + args",
  "    elif executable:",
  "        args = [os.fspath(executable)] + args[1:]",
  "    return args",
  "def _check(words, cwd, env):",
  "    if cwd is not None and not os.path.isdir(cwd):",
  "        raise FileNotFoundError(2, 'No such file or directory', cwd)",
  "    program = os.fsdecode(words[0])",
  "    if '/' in program:",
  "        paths = [os.path.join(cwd or '', program)]",
  "    else:",
  "        places = (os.environ if env is None else env).get('PATH', os.defpath)",
  "        paths = [os.path.join(place, program) for place in places.split(':')]",
  "    denied = False",
  "    for path in paths:",
  "        if os.path.isfile(path) or os.path.exists(path) and not os.path.isdir(path):",
  "            if os.access(path, os.X_OK):",
  "                return",
  "            denied = True",
  "        elif os.path.isdir(path):",
  "            denied = True",
  "    if denied:",
  "        raise PermissionError(13, 'Permission denied', program)",
  "    raise FileNotFoundError(2, 'No such file or directory', program)"]

def programsPopen : List String := [
  "class Popen:",
  "    _pending = []",
  "    _number = 1500",
  "    def __init__(self, args, bufsize=-1, executable=None, stdin=None, stdout=None, stderr=None,",
  "                 preexec_fn=None, close_fds=True, shell=False, cwd=None, env=None,",
  "                 universal_newlines=None, startupinfo=None, creationflags=0,",
  "                 restore_signals=True, start_new_session=False, pass_fds=(), *, user=None,",
  "                 group=None, extra_groups=None, encoding=None, errors=None, text=None,",
  "                 umask=-1, pipesize=-1, process_group=None, _waits=False):",
  "        self.args = args",
  "        self.words = _words(args, shell, executable)",
  "        self.cwd = None if cwd is None else os.fspath(cwd)",
  "        self.env = None if env is None else dict(env)",
  "        self.is_text = bool(text or universal_newlines or encoding or errors)",
  "        self.encoding = encoding or 'utf-8'",
  "        self.errors = errors or 'strict'",
  "        _check(self.words, self.cwd, self.env)",
  "        self.returncode = None",
  "        Popen._number += 1",
  "        self.pid = Popen._number",
  "        self.source = stdin",
  "        self.targets = (stdout, stderr)",
  "        self.stdin = _Inlet(self) if stdin == PIPE else None",
  "        self.results = None",
  "        self.files = [None, None]",
  "        self.signal = None",
  "        self.pipes = None",
  "        if self.stdin is None and not _waits:",
  "            self._begin()",
  "        else:",
  "            Popen._pending.append(self)"]

def programsBegin : List String := [
  "    def _begin(self):",
  "        self.pid, out, err = os._spawn(",
  "            self.words, self._input(None), *self.targets, self.cwd, self.env)",
  "        self.pipes = (out, err)",
  "        if self in Popen._pending:",
  "            Popen._pending.remove(self)",
  "    def _settle(self, timeout):",
  "        if self.returncode is None:",
  "            late = not os._join(self.pid, timeout)",
  "            self.results = tuple(os._taken(pipe, self.pid) for pipe in self.pipes)",
  "            if late:",
  "                out, err = self.results",
  "                self.results = None",
  "                raise TimeoutExpired(self.args, timeout, out or None, err or None)",
  "            self.returncode = os._ended(self.pid)",
  "    def _input(self, data):",
  "        if self.stdin is not None:",
  "            front = b''.join(self.stdin.parts)",
  "            if data is None:",
  "                return front",
  "            return front + (data.encode(self.encoding) if isinstance(data, str) else data)",
  "        if self.source is None:",
  "            return None",
  "        if self.source == DEVNULL:",
  "            return 0",
  "        if hasattr(self.source, 'read'):",
  "            data = self.source.read()",
  "            return data.encode('utf-8') if isinstance(data, str) else data",
  "        return None"]

def programsCarryOut : List String := [
  "    def _carry_out(self, data=None, timeout=None):",
  "        if self.results is not None:",
  "            return",
  "        if self.pipes is not None:",
  "            return self._settle(timeout)",
  "        if self.signal is not None and self.signal in (2, 9, 15):",
  "            self.results = (b'', b'')",
  "            self.returncode = -self.signal",
  "        else:",
  "            status, out, err, late = os._launch(",
  "                self.words, self._input(data), self.targets[0], self.targets[1], self.cwd,",
  "                self.env, timeout)",
  "            if late:",
  "                self.late = (out, err)",
  "                raise TimeoutExpired(self.args, timeout, out or None, err or None)",
  "            self.results = (out, err)",
  "            self.returncode = status",
  "        if self in Popen._pending:",
  "            Popen._pending.remove(self)",
  "    def _file(self, place):",
  "        if self.targets[place] != PIPE:",
  "            return None",
  "        if self.files[place] is None:",
  "            self._carry_out()",
  "            data = self.results[place]",
  "            self.files[place] = (",
  "                io.StringIO(self._text(data)) if self.is_text else io.BytesIO(data))",
  "        return self.files[place]",
  "    def _text(self, data):",
  "        text = data.decode(self.encoding, self.errors)",
  "        return text.replace('\\r\\n', '\\n').replace('\\r', '\\n')",
  "    @property",
  "    def stdout(self):",
  "        return self._file(0)"]

def programsStderr : List String := [
  "    @property",
  "    def stderr(self):",
  "        return self._file(1)",
  "    def communicate(self, input=None, timeout=None):",
  "        self._carry_out(input, timeout)",
  "        answers = []",
  "        for place in range(2):",
  "            if self.targets[place] != PIPE:",
  "                answers.append(None)",
  "            elif self.files[place] is not None:",
  "                answers.append(self.files[place].read())",
  "            else:",
  "                data = self.results[place]",
  "                answers.append(self._text(data) if self.is_text else data)",
  "        return tuple(answers)",
  "    def wait(self, timeout=None):",
  "        self._carry_out(None, timeout)",
  "        return self.returncode",
  "    def poll(self):",
  "        if self.pipes is None and self.stdin.closed:",
  "            self._begin()",
  "        if self.pipes is not None and self.returncode is None:",
  "            if os._ended(self.pid) is not None:",
  "                self._settle(None)",
  "        return self.returncode",
  "    def send_signal(self, signal):",
  "        if self.pipes is not None:",
  "            if self.poll() is None:",
  "                os.kill(self.pid, signal)",
  "        elif self.results is None:",
  "            self.signal = int(signal)",
  "    def terminate(self):",
  "        self.send_signal(15)",
  "    def kill(self):",
  "        self.send_signal(9)",
  "    def __enter__(self):",
  "        return self",
  "    def __exit__(self, *args):",
  "        self.wait()",
  "    def __repr__(self):",
  "        return '<Popen: returncode: %s args: %r>' % (self.returncode, self.args)"]

def programsFinish : List String := [
  "def _finish():",
  "    for process in list(Popen._pending):",
  "        if process.signal not in (2, 9, 15):",
  "            process._begin()",
  "atexit.register(_finish)",
  "def run(*args, input=None, capture_output=False, timeout=None, check=False, **named):",
  "    if input is not None:",
  "        if named.get('stdin') is not None:",
  "            raise ValueError('stdin and input arguments may not both be used.')",
  "        named['stdin'] = PIPE",
  "    if capture_output:",
  "        if named.get('stdout') is not None or named.get('stderr') is not None:",
  "            raise ValueError(",
  "                'stdout and stderr arguments may not be used with capture_output.')",
  "        named['stdout'] = PIPE",
  "        named['stderr'] = PIPE",
  "    process = Popen(*args, **named, _waits=True)",
  "    try:",
  "        out, err = process.communicate(input, timeout)",
  "    except TimeoutExpired:",
  "        process.kill()",
  "        Popen._pending.remove(process)",
  "        raise",
  "    if check and process.returncode:",
  "        raise CalledProcessError(process.returncode, process.args, out, err)",
  "    return CompletedProcess(process.args, process.returncode, out, err)"]

def programsCall : List String := [
  "def call(*args, timeout=None, **named):",
  "    return run(*args, timeout=timeout, **named).returncode",
  "def check_call(*args, **named):",
  "    status = call(*args, **named)",
  "    if status:",
  "        raise CalledProcessError(status, named.get('args') or args[0])",
  "    return 0",
  "def check_output(*args, timeout=None, **named):",
  "    if 'stdout' in named:",
  "        raise ValueError('stdout argument not allowed, it will be overridden.')",
  "    return run(*args, stdout=PIPE, timeout=timeout, check=True, **named).stdout",
  "def getstatusoutput(cmd, *, encoding=None, errors=None):",
  "    done = run(cmd, shell=True, text=True, stdout=PIPE, stderr=STDOUT)",
  "    out = done.stdout",
  "    return done.returncode, out[:-1] if out[-1:] == '\\n' else out"]

def programsGetoutput : List String := [
  "def getoutput(cmd, **named):",
  "    return getstatusoutput(cmd, **named)[1]",
  "def list2cmdline(words):",
  "    return ' '.join(words)"]

def programs : List String :=
  programsSubprocessError ++ programsTimeoutExpired ++ programsInlet ++ programsWords ++
    programsPopen ++ programsBegin ++ programsCarryOut ++ programsStderr ++ programsFinish ++
    programsCall ++ programsGetoutput

/-! Words of commands. -/

def wordsQuote : List String := [
  "import re",
  "def quote(text):",
  "    if not text:",
  "        return \"''\"",
  "    if re.search(r'[^\\w@%+=:,./-]', text, re.ASCII) is None:",
  "        return text",
  "    return \"'\" + text.replace(\"'\", \"'\\\"'\\\"'\") + \"'\"",
  "def join(words):",
  "    return ' '.join(quote(word) for word in words)",
  "def split(text, comments=False, posix=True):",
  "    words = []",
  "    word = None",
  "    place = 0",
  "    while place < len(text):",
  "        c = text[place]",
  "        place += 1",
  "        if c in ' \\t\\r\\n':",
  "            if word is not None:",
  "                words.append(word)",
  "                word = None",
  "        elif c == '#' and comments and word is None:",
  "            while place < len(text) and text[place] != '\\n':",
  "                place += 1",
  "        elif c == '\\\\' and posix:",
  "            if place >= len(text):",
  "                raise ValueError('No escaped character')",
  "            word = (word or '') + text[place]",
  "            place += 1",
  "        elif c in '\\'\"':",
  "            word = (word or '') + ('' if posix else c)",
  "            while True:",
  "                if place >= len(text):",
  "                    raise ValueError('No closing quotation')",
  "                d = text[place]",
  "                place += 1",
  "                if d == c:"]

def wordsMore : List String := [
  "                    word += '' if posix else c",
  "                    break",
  "                if d == '\\\\' and c == '\"' and posix and text[place:place + 1] in '\"\\\\':",
  "                    d = text[place]",
  "                    place += 1",
  "                word += d",
  "        else:",
  "            word = (word or '') + c",
  "    if word is not None:",
  "        words.append(word)",
  "    return words"]

def wordsShlex : List String := [
  "class shlex:",
  "    def __init__(self, instream=None, infile=None, posix=False, punctuation_chars=False):",
  "        self._words = iter(split(instream, True, posix))",
  "    def __iter__(self):",
  "        return self._words",
  "    def get_token(self):",
  "        return next(self._words, None)"]

def words : List String :=
  wordsQuote ++ wordsMore ++ wordsShlex

/-! Routines at the same time, which are carried out one after the other. -/

def threadsThread : List String := [
  "import sys, time",
  "class Thread:",
  "    _count = 0",
  "    def __init__(self, group=None, target=None, name=None, args=(), kwargs=None, *,",
  "                 daemon=None):",
  "        if name is None:",
  "            Thread._count += 1",
  "            name = 'Thread-%d' % Thread._count",
  "            if target is not None:",
  "                name += ' (%s)' % getattr(target, '__name__', 'target')",
  "        self.name = name",
  "        self.daemon = bool(daemon)",
  "        self.ident = None",
  "        self._target = target",
  "        self._args = args",
  "        self._kwargs = kwargs or dict()",
  "    def run(self):",
  "        if self._target is not None:",
  "            self._target(*self._args, **self._kwargs)",
  "    def start(self):",
  "        if self.ident is not None:",
  "            raise RuntimeError('threads can only be started once')",
  "        self.ident = id(self)",
  "        before = _present[0]",
  "        _present[0] = self",
  "        try:",
  "            self.run()",
  "        except SystemExit:",
  "            pass",
  "        except BaseException as error:",
  "            excepthook(ExceptHookArgs(error, self))",
  "        finally:",
  "            _present[0] = before",
  "    def join(self, timeout=None):",
  "        pass",
  "    def is_alive(self):",
  "        return False",
  "    def getName(self):",
  "        return self.name",
  "    def setDaemon(self, daemon):",
  "        self.daemon = daemon",
  "    @property",
  "    def native_id(self):",
  "        return self.ident"]

def threadsExceptHookArgs : List String := [
  "class ExceptHookArgs:",
  "    def __init__(self, value, thread):",
  "        self.exc_type = type(value)",
  "        self.exc_value = value",
  "        self.exc_traceback = None",
  "        self.thread = thread",
  "def excepthook(args):",
  "    import traceback",
  "    text = ''.join(traceback.format_exception(args.exc_value))",
  "    sys.stderr.write('Exception in thread %s:\\n%s' % (args.thread.name, text))",
  "class _Main(Thread):",
  "    def __init__(self):",
  "        Thread.__init__(self, name='MainThread')",
  "        self.ident = 1",
  "_main = _Main()",
  "_present = [_main]"]

def threadsCurrentThread : List String := [
  "def current_thread(): return _present[0]",
  "def main_thread(): return _main",
  "def active_count(): return 1",
  "def enumerate(): return [_main]",
  "def get_ident(): return _present[0].ident",
  "get_native_id = get_ident",
  "currentThread = current_thread",
  "class Lock:",
  "    def __init__(self):",
  "        self._held = 0",
  "    def acquire(self, blocking=True, timeout=-1):",
  "        self._held += 1",
  "        return True",
  "    def release(self):",
  "        if not self._held:",
  "            raise RuntimeError('release unlocked lock')",
  "        self._held -= 1",
  "    def locked(self):",
  "        return self._held > 0",
  "    def __enter__(self):",
  "        self.acquire()",
  "        return True",
  "    def __exit__(self, *args):",
  "        self.release()"]

def threadsCondition : List String := [
  "RLock = Lock",
  "class Condition(Lock):",
  "    def __init__(self, lock=None):",
  "        Lock.__init__(self)",
  "    def wait(self, timeout=None):",
  "        return True",
  "    def wait_for(self, predicate, timeout=None):",
  "        return predicate()",
  "    def notify(self, n=1):",
  "        pass",
  "    notify_all = notify",
  "class Semaphore(Lock):",
  "    def __init__(self, value=1):",
  "        self._held = value"]

def threadsBoundedSemaphore : List String := [
  "class BoundedSemaphore(Semaphore):",
  "    pass",
  "class Event:",
  "    def __init__(self):",
  "        self._flag = False",
  "    def is_set(self):",
  "        return self._flag",
  "    def set(self):",
  "        self._flag = True",
  "    def clear(self):",
  "        self._flag = False",
  "    def wait(self, timeout=None):",
  "        if not self._flag:",
  "            if timeout is None:",
  "                time.sleep(86400)",
  "            else:",
  "                time.sleep(timeout)",
  "        return self._flag"]

def threadsTimer : List String := [
  "class Timer(Thread):",
  "    def __init__(self, interval, function, args=None, kwargs=None):",
  "        Thread.__init__(self, target=function, args=args or (), kwargs=kwargs)",
  "        self.interval = interval",
  "    def start(self):",
  "        _timers.append(self)",
  "    def cancel(self):",
  "        if self in _timers:",
  "            _timers.remove(self)",
  "    def join(self, timeout=None):",
  "        if self in _timers:",
  "            _timers.remove(self)",
  "            time.sleep(self.interval)",
  "            Thread.start(self)",
  "_timers = []"]

def threadsFinish : List String := [
  "def _finish():",
  "    for timer in list(_timers):",
  "        if not timer.daemon:",
  "            timer.join()",
  "import atexit",
  "atexit.register(_finish)",
  "class local:",
  "    pass"]

def threads : List String :=
  threadsThread ++ threadsExceptHookArgs ++ threadsCurrentThread ++ threadsCondition ++
    threadsBoundedSemaphore ++ threadsTimer ++ threadsFinish

/-! Routines that wait for one another, each of which is carried out where it is called. -/

def alternationCancelledError : List String := [
  "import subprocess as _subprocess, threading as _threading, time as _time",
  "from collections import deque as _deque",
  "TimeoutError = TimeoutError",
  "class CancelledError(BaseException):",
  "    pass",
  "class InvalidStateError(Exception):",
  "    pass",
  "class QueueEmpty(Exception):",
  "    pass",
  "class QueueFull(Exception):",
  "    pass",
  "def run(main, *, debug=None):",
  "    return main"]

def alternationSleep : List String := [
  "def sleep(delay, result=None):",
  "    _time.sleep(delay)",
  "    return result",
  "def gather(*awaitables, return_exceptions=False):",
  "    return list(awaitables)",
  "def wait_for(awaitable, timeout):",
  "    return awaitable",
  "def shield(awaitable):",
  "    return awaitable",
  "def create_task(awaitable, *, name=None):",
  "    return awaitable",
  "def ensure_future(awaitable, *, loop=None):",
  "    return awaitable"]

def alternationAsCompleted : List String := [
  "def as_completed(awaitables, *, timeout=None):",
  "    return iter(list(awaitables))",
  "def wait(awaitables, *, timeout=None, return_when='ALL_COMPLETED'):",
  "    return set(awaitables), set()",
  "def to_thread(routine, *args, **named):",
  "    return routine(*args, **named)",
  "def iscoroutinefunction(routine):",
  "    return False",
  "class _Loop:",
  "    def run_until_complete(self, awaitable):",
  "        return awaitable",
  "    def create_task(self, awaitable, *, name=None):",
  "        return awaitable",
  "    def run_in_executor(self, executor, routine, *args):",
  "        return routine(*args)",
  "    def time(self):",
  "        return _time.monotonic()",
  "    def call_soon(self, routine, *args):",
  "        routine(*args)",
  "    def add_signal_handler(self, number, routine, *args):",
  "        import signal",
  "        signal.signal(number, lambda number, frame: routine(*args))",
  "    def is_running(self):",
  "        return True",
  "    def is_closed(self):",
  "        return False",
  "    def stop(self):",
  "        pass",
  "    def close(self):",
  "        pass"]

def alternationGetEventLoop : List String := [
  "_loop = _Loop()",
  "def get_event_loop():",
  "    return _loop",
  "def get_running_loop():",
  "    return _loop",
  "def new_event_loop():",
  "    return _loop",
  "def set_event_loop(loop):",
  "    pass",
  "class Lock(_threading.Lock):",
  "    def locked(self):",
  "        return False"]

def alternationEvent : List String := [
  "class Event(_threading.Event):",
  "    pass",
  "class Semaphore(_threading.Semaphore):",
  "    pass",
  "class Queue:",
  "    def __init__(self, maxsize=0):",
  "        self.maxsize = maxsize",
  "        self.items = _deque()",
  "    def put(self, item):",
  "        self.items.append(item)",
  "    def put_nowait(self, item):",
  "        if 0 < self.maxsize <= len(self.items):",
  "            raise QueueFull",
  "        self.items.append(item)",
  "    def get(self):",
  "        return self.get_nowait()",
  "    def get_nowait(self):",
  "        if not self.items:",
  "            raise QueueEmpty",
  "        return self.items.popleft()",
  "    def qsize(self):",
  "        return len(self.items)",
  "    def empty(self):",
  "        return not self.items",
  "    def full(self):",
  "        return 0 < self.maxsize <= len(self.items)",
  "    def task_done(self):",
  "        pass",
  "    def join(self):",
  "        pass"]

def alternationCreateSubprocessExec : List String := [
  "def create_subprocess_exec(program, *args, **named):",
  "    return _subprocess.Popen([program, *args], **named)",
  "def create_subprocess_shell(command, **named):",
  "    return _subprocess.Popen(command, shell=True, **named)",
  "class subprocess:",
  "    PIPE = _subprocess.PIPE",
  "    STDOUT = _subprocess.STDOUT",
  "    DEVNULL = _subprocess.DEVNULL"]

def alternation : List String :=
  alternationCancelledError ++ alternationSleep ++ alternationAsCompleted ++
    alternationGetEventLoop ++ alternationEvent ++ alternationCreateSubprocessExec

/-! Numbers of errors. -/

def errors : List String := [
  "EPERM, ENOENT, ESRCH, EINTR, EIO, ENXIO, E2BIG, ENOEXEC, EBADF, ECHILD = range(1, 11)",
  "EAGAIN, ENOMEM, EACCES, EFAULT, ENOTBLK, EBUSY, EEXIST, EXDEV, ENODEV, ENOTDIR = range(11, 21)",
  "EISDIR, EINVAL, ENFILE, EMFILE, ENOTTY, ETXTBSY, EFBIG, ENOSPC, ESPIPE, EROFS = range(21, 31)",
  "EMLINK, EPIPE, EDOM, ERANGE = range(31, 35)",
  "EWOULDBLOCK = EAGAIN",
  "ENAMETOOLONG, ENOTEMPTY, ELOOP, ETIMEDOUT, ECONNREFUSED, ECONNRESET = 36, 39, 40, 110, 111, 104",
  "errorcode = dict((value, name) for name, value in list(globals().items())",
  "                 if name.startswith('E') and isinstance(value, int) and name != 'EWOULDBLOCK')"]

/-! The machine. -/

def platformSystem : List String := [
  "import os, sys",
  "def system(): return 'Linux'",
  "def node(): return os.uname().nodename",
  "def release(): return os.uname().release",
  "def version(): return os.uname().version",
  "def machine(): return 'x86_64'",
  "def processor(): return 'x86_64'",
  "def architecture(*args): return ('64bit', 'ELF')",
  "def platform(aliased=False, terse=False): return 'Linux-5.15.0-x86_64-with-glibc2.39'",
  "def python_version(): return '3.12.3'",
  "def python_version_tuple(): return ('3', '12', '3')",
  "def python_implementation(): return 'CPython'"]

def platformUname : List String := [
  "def uname(): return os.uname()"]

def platform : List String :=
  platformSystem ++ platformUname

/-! Signals. -/

def signalsDefaultIntHandler : List String := [
  "import enum as _enum",
  "_names = [name for name in globals() if name.startswith('SIG')]",
  "Signals = _enum.IntEnum('Signals', dict((name, globals()[name]) for name in _names",
  "                                        if not name.startswith('SIG_')))",
  "for _member in Signals:",
  "    globals()[_member.name] = _member",
  "SIGCLD, SIGPOLL = SIGCHLD, SIGIO",
  "Handlers = _enum.IntEnum('Handlers', dict(SIG_DFL=0, SIG_IGN=1))",
  "SIG_DFL, SIG_IGN = Handlers.SIG_DFL, Handlers.SIG_IGN",
  "def default_int_handler(number, frame):",
  "    raise KeyboardInterrupt",
  "def pause():",
  "    import time",
  "    time.sleep(86400)"]

def signalsSetitimer : List String := [
  "def setitimer(which, seconds, interval=0.0):",
  "    alarm(int(seconds + 0.999))",
  "    return (0.0, 0.0)",
  "ITIMER_REAL = 0",
  "def valid_signals():",
  "    return set(Signals)",
  "def siginterrupt(number, flag):",
  "    pass"]

def signals : List String :=
  signalsDefaultIntHandler ++ signalsSetitimer

/-! Time. -/

def clockStructTime : List String := [
  "_gmtime, _localtime = gmtime, localtime",
  "class struct_time(tuple):",
  "    def __new__(cls, values):",
  "        self = tuple.__new__(cls, values)",
  "        self.tm_year, self.tm_mon, self.tm_mday = values[:3]",
  "        self.tm_hour, self.tm_min, self.tm_sec = values[3:6]",
  "        self.tm_wday, self.tm_yday, self.tm_isdst = values[6:9]",
  "        self.tm_zone, self.tm_gmtoff = 'UTC', 0",
  "        return self",
  "    def __repr__(self):",
  "        names = ['year', 'mon', 'mday', 'hour', 'min', 'sec', 'wday', 'yday', 'isdst']",
  "        pairs = ['tm_%s=%d' % pair for pair in zip(names, self)]",
  "        return 'time.struct_time(%s)' % ', '.join(pairs)"]

def clockGmtime : List String := [
  "def gmtime(secs=None):",
  "    return struct_time(_gmtime(secs))",
  "def localtime(secs=None):",
  "    return struct_time(_localtime(secs))",
  "def strptime(text, format='%a %b %d %H:%M:%S %Y'):",
  "    import datetime",
  "    return struct_time(datetime.datetime.strptime(text, format).timetuple())",
  "def tzset():",
  "    pass"]

def clock : List String :=
  clockStructTime ++ clockGmtime

end ShaderCost.Script.Indented.Written
