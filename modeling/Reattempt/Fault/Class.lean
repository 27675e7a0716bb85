/-!
# Classes of faults

Faults are sorted into classes, and the classes into a hierarchy. The faults below `exception` are
ordinary; any other ends whatever is running and is never retried.
-/
namespace Reattempt

/-- The faults by which this library complains about its own use. -/
inductive Complaint where
  | general
  | state
  | config
  | missing
  | invalid
  deriving DecidableEq, Repr, Inhabited

inductive FaultClass where
  | baseException | baseExceptionGroup | exceptionGroup | exception | arithmeticError
  | floatingPointError | overflowError | zeroDivisionError | assertionError | attributeError
  | bufferError | eofError | importError | moduleNotFoundError | lookupError | indexError
  | keyError | memoryError | nameError | unboundLocalError | osError | blockingIOError
  | childProcessError | connectionError | brokenPipeError | connectionAbortedError
  | connectionRefusedError | connectionResetError | fileExistsError | fileNotFoundError
  | interruptedError | isADirectoryError | notADirectoryError | permissionError
  | processLookupError | timeoutError | referenceError | runtimeError | notImplementedError
  | recursionError | stopAsyncIteration | stopIteration | syntaxError | indentationError | tabError
  | systemError | typeError | valueError | unicodeError | unicodeDecodeError | unicodeEncodeError
  | unicodeTranslateError | warning | bytesWarning | deprecationWarning | encodingWarning
  | futureWarning | importWarning | pendingDeprecationWarning | resourceWarning | runtimeWarning
  | syntaxWarning | unicodeWarning | userWarning | generatorExit | keyboardInterrupt | systemExit
  | cancelledError | frozenInstanceError | abort
  | complaint (c : Complaint)
  deriving DecidableEq, Repr, Inhabited

/-- How the arguments of a fault are read. -/
inductive Reading where
  /-- As they are. -/
  | plain
  /-- A key that was looked for. -/
  | key
  /-- A number, a message and files. -/
  | system
  /-- A message and a place in a source text. -/
  | source
  /-- A part of a text or of bytes, and why it cannot be coded. -/
  | coding
  /-- A message and members. -/
  | group
  deriving DecidableEq, Repr, Inhabited

namespace Complaint

def name : Complaint → String
  | .general => "AretryError"
  | .state => "RetryStateError"
  | .config => "ConfigError"
  | .missing => "MissingRequiredSettingError"
  | .invalid => "InvalidSettingValueError"

def all : List Complaint := [.general, .state, .config, .missing, .invalid]

/-- The code of a complaint that is given none. -/
def code : Complaint → String
  | .general => "aretry_error"
  | .state => "retry_state_error"
  | .config => "config_error"
  | .missing => "missing_required_setting"
  | .invalid => "invalid_setting_value"

def base? : Complaint → Option Complaint
  | .general => none
  | .state | .config => some .general
  | .missing | .invalid => some .config

end Complaint

namespace FaultClass

def name : FaultClass → String
  | .baseException => "BaseException"
  | .baseExceptionGroup => "BaseExceptionGroup"
  | .exceptionGroup => "ExceptionGroup"
  | .exception => "Exception"
  | .arithmeticError => "ArithmeticError"
  | .floatingPointError => "FloatingPointError"
  | .overflowError => "OverflowError"
  | .zeroDivisionError => "ZeroDivisionError"
  | .assertionError => "AssertionError"
  | .attributeError => "AttributeError"
  | .bufferError => "BufferError"
  | .eofError => "EOFError"
  | .importError => "ImportError"
  | .moduleNotFoundError => "ModuleNotFoundError"
  | .lookupError => "LookupError"
  | .indexError => "IndexError"
  | .keyError => "KeyError"
  | .memoryError => "MemoryError"
  | .nameError => "NameError"
  | .unboundLocalError => "UnboundLocalError"
  | .osError => "OSError"
  | .blockingIOError => "BlockingIOError"
  | .childProcessError => "ChildProcessError"
  | .connectionError => "ConnectionError"
  | .brokenPipeError => "BrokenPipeError"
  | .connectionAbortedError => "ConnectionAbortedError"
  | .connectionRefusedError => "ConnectionRefusedError"
  | .connectionResetError => "ConnectionResetError"
  | .fileExistsError => "FileExistsError"
  | .fileNotFoundError => "FileNotFoundError"
  | .interruptedError => "InterruptedError"
  | .isADirectoryError => "IsADirectoryError"
  | .notADirectoryError => "NotADirectoryError"
  | .permissionError => "PermissionError"
  | .processLookupError => "ProcessLookupError"
  | .timeoutError => "TimeoutError"
  | .referenceError => "ReferenceError"
  | .runtimeError => "RuntimeError"
  | .notImplementedError => "NotImplementedError"
  | .recursionError => "RecursionError"
  | .stopAsyncIteration => "StopAsyncIteration"
  | .stopIteration => "StopIteration"
  | .syntaxError => "SyntaxError"
  | .indentationError => "IndentationError"
  | .tabError => "TabError"
  | .systemError => "SystemError"
  | .typeError => "TypeError"
  | .valueError => "ValueError"
  | .unicodeError => "UnicodeError"
  | .unicodeDecodeError => "UnicodeDecodeError"
  | .unicodeEncodeError => "UnicodeEncodeError"
  | .unicodeTranslateError => "UnicodeTranslateError"
  | .warning => "Warning"
  | .bytesWarning => "BytesWarning"
  | .deprecationWarning => "DeprecationWarning"
  | .encodingWarning => "EncodingWarning"
  | .futureWarning => "FutureWarning"
  | .importWarning => "ImportWarning"
  | .pendingDeprecationWarning => "PendingDeprecationWarning"
  | .resourceWarning => "ResourceWarning"
  | .runtimeWarning => "RuntimeWarning"
  | .syntaxWarning => "SyntaxWarning"
  | .unicodeWarning => "UnicodeWarning"
  | .userWarning => "UserWarning"
  | .generatorExit => "GeneratorExit"
  | .keyboardInterrupt => "KeyboardInterrupt"
  | .systemExit => "SystemExit"
  | .cancelledError => "CancelledError"
  | .frozenInstanceError => "FrozenInstanceError"
  | .abort => "Abort"
  | .complaint c => c.name

/-- The name with the place where the class is defined, if it is not a class of the language. -/
def path : FaultClass → String
  | .cancelledError => "asyncio.exceptions.CancelledError"
  | .frozenInstanceError => "dataclasses.FrozenInstanceError"
  | .abort => "__main__.Abort"
  | .complaint c => "aretry.errors." ++ c.name
  | c => c.name

/-- Whether a class is one of the language and not of a module. -/
def isBuiltIn (c : FaultClass) : Bool := c.path = c.name

def bases : FaultClass → List FaultClass
  | .baseException => []
  | .baseExceptionGroup | .exception | .generatorExit | .keyboardInterrupt | .systemExit
  | .cancelledError | .abort => [.baseException]
  | .exceptionGroup => [.baseExceptionGroup, .exception]
  | .arithmeticError | .assertionError | .attributeError | .bufferError | .eofError | .importError
  | .lookupError | .memoryError | .nameError | .osError | .referenceError | .runtimeError
  | .stopAsyncIteration | .stopIteration | .syntaxError | .systemError | .typeError | .valueError
  | .warning => [.exception]
  | .floatingPointError | .overflowError | .zeroDivisionError => [.arithmeticError]
  | .moduleNotFoundError => [.importError]
  | .indexError | .keyError => [.lookupError]
  | .unboundLocalError => [.nameError]
  | .blockingIOError | .childProcessError | .connectionError | .fileExistsError
  | .fileNotFoundError | .interruptedError | .isADirectoryError | .notADirectoryError
  | .permissionError | .processLookupError | .timeoutError => [.osError]
  | .brokenPipeError | .connectionAbortedError | .connectionRefusedError | .connectionResetError => [.connectionError]
  | .notImplementedError | .recursionError => [.runtimeError]
  | .indentationError => [.syntaxError]
  | .tabError => [.indentationError]
  | .unicodeError => [.valueError]
  | .unicodeDecodeError | .unicodeEncodeError | .unicodeTranslateError => [.unicodeError]
  | .bytesWarning | .deprecationWarning | .encodingWarning | .futureWarning | .importWarning
  | .pendingDeprecationWarning | .resourceWarning | .runtimeWarning | .syntaxWarning
  | .unicodeWarning | .userWarning => [.warning]
  | .frozenInstanceError => [.attributeError]
  | .complaint c => [match c.base? with | some b => .complaint b | none => .exception]

/-- Whether `a` is reached from `c` in at most so many steps up. -/
def reaches (a : FaultClass) : Nat → FaultClass → Bool
  | 0, c => c = a
  | n + 1, c => c = a || c.bases.any (reaches a n)

/-- Whether every fault of class `c` is also one of class `a`; no class is deeper than eight. -/
def isA (c a : FaultClass) : Bool := reaches a 8 c

/-- Whether a fault of this class can be retried. -/
def isOrdinary (c : FaultClass) : Bool := c.isA .exception

def all : List FaultClass := [
  .baseException, .baseExceptionGroup, .exceptionGroup, .exception, .arithmeticError,
  .floatingPointError, .overflowError, .zeroDivisionError, .assertionError, .attributeError,
  .bufferError, .eofError, .importError, .moduleNotFoundError, .lookupError, .indexError,
  .keyError, .memoryError, .nameError, .unboundLocalError, .osError, .blockingIOError,
  .childProcessError, .connectionError, .brokenPipeError, .connectionAbortedError,
  .connectionRefusedError, .connectionResetError, .fileExistsError, .fileNotFoundError,
  .interruptedError, .isADirectoryError, .notADirectoryError, .permissionError,
  .processLookupError, .timeoutError, .referenceError, .runtimeError, .notImplementedError,
  .recursionError, .stopAsyncIteration, .stopIteration, .syntaxError, .indentationError, .tabError,
  .systemError, .typeError, .valueError, .unicodeError, .unicodeDecodeError, .unicodeEncodeError,
  .unicodeTranslateError, .warning, .bytesWarning, .deprecationWarning, .encodingWarning,
  .futureWarning, .importWarning, .pendingDeprecationWarning, .resourceWarning, .runtimeWarning,
  .syntaxWarning, .unicodeWarning, .userWarning, .generatorExit, .keyboardInterrupt, .systemExit,
  .cancelledError, .frozenInstanceError, .abort] ++
  Complaint.all.map .complaint

/-- The class of a name; two of the names are old names of one class. -/
def ofName? (s : String) : Option FaultClass :=
  if s = "IOError" ∨ s = "EnvironmentError" then some .osError else all.find? (·.name = s)

def reading : FaultClass → Reading
  | .keyError => .key
  | .osError | .blockingIOError | .childProcessError | .connectionError | .brokenPipeError
  | .connectionAbortedError | .connectionRefusedError | .connectionResetError | .fileExistsError
  | .fileNotFoundError | .interruptedError | .isADirectoryError | .notADirectoryError
  | .permissionError | .processLookupError | .timeoutError => .system
  | .syntaxError | .indentationError | .tabError => .source
  | .unicodeDecodeError | .unicodeEncodeError | .unicodeTranslateError => .coding
  | .baseExceptionGroup | .exceptionGroup => .group
  | _ => .plain

/-- The class of the system's error of a number. -/
def ofErrorNumber? : Int → Option FaultClass
  | 1 | 13 => some .permissionError
  | 2 => some .fileNotFoundError
  | 3 => some .processLookupError
  | 4 => some .interruptedError
  | 10 => some .childProcessError
  | 11 | 114 | 115 => some .blockingIOError
  | 17 => some .fileExistsError
  | 20 => some .notADirectoryError
  | 21 => some .isADirectoryError
  | 32 | 108 => some .brokenPipeError
  | 103 => some .connectionAbortedError
  | 104 => some .connectionResetError
  | 110 => some .timeoutError
  | 111 => some .connectionRefusedError
  | _ => none

@[simp] theorem isA_self (c : FaultClass) : c.isA c := by simp [isA, reaches]

@[simp] theorem isOrdinary_complaint (c : Complaint) : (complaint c).isOrdinary := by
  cases c <;> decide

theorem isOrdinary_of_isA_stopIteration {c : FaultClass} (h : c.isA .stopIteration) : c.isOrdinary := by
  cases c with
  | stopIteration => decide
  | complaint c => cases c <;> exact absurd h (by decide)
  | _ => exact absurd h (by decide)

theorem isA_baseException (c : FaultClass) : c.isA .baseException := by
  cases c with
  | complaint c => cases c <;> decide
  | _ => decide

end FaultClass

end Reattempt
