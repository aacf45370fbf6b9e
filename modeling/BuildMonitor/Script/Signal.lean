import BuildMonitor.Script.Word

/-!
# Signals

Signals have numbers and names. Most end a process that does not handle them.

Main definitions: `signalNumber?`, `signalDescription`, `endsByDefault`.
-/

namespace BuildMonitor.Script

/-- The request to end that can be handled. -/
def terminationSignal : Nat := 15

/-- The end that cannot be handled. -/
def killSignal : Nat := 9

/-- The signal for output that nobody reads. -/
def brokenPipeSignal : Nat := 13

/-- The names of signals with their numbers and the words for them. -/
def signalTable : List (String × Nat × String) :=
  [("HUP", 1, "Hangup"), ("INT", 2, "Interrupt"), ("QUIT", 3, "Quit"),
   ("ILL", 4, "Illegal instruction"), ("TRAP", 5, "Trace/breakpoint trap"),
   ("ABRT", 6, "Aborted"), ("BUS", 7, "Bus error"), ("FPE", 8, "Floating point exception"),
   ("KILL", 9, "Killed"), ("USR1", 10, "User defined signal 1"),
   ("SEGV", 11, "Segmentation fault"), ("USR2", 12, "User defined signal 2"),
   ("PIPE", 13, "Broken pipe"), ("ALRM", 14, "Alarm clock"), ("TERM", 15, "Terminated"),
   ("STKFLT", 16, "Stack fault"), ("CHLD", 17, "Child exited"), ("CONT", 18, "Continued"),
   ("STOP", 19, "Stopped (signal)"), ("TSTP", 20, "Stopped"), ("TTIN", 21, "Stopped (tty input)"),
   ("TTOU", 22, "Stopped (tty output)"), ("URG", 23, "Urgent I/O condition"),
   ("XCPU", 24, "CPU time limit exceeded"), ("XFSZ", 25, "File size limit exceeded"),
   ("VTALRM", 26, "Virtual timer expired"), ("PROF", 27, "Profiling timer expired"),
   ("WINCH", 28, "Window changed"), ("POLL", 29, "I/O possible"), ("PWR", 30, "Power failure"),
   ("SYS", 31, "Bad system call")]

/-- The greatest number of a signal. -/
def greatestSignal : Nat := 64

/-- The signals that are passed over unless they are handled. -/
def passedOver : List Nat := [17, 18, 19, 20, 21, 22, 23, 28]

/-- Whether a signal ends a process that does not handle it. -/
def endsByDefault (number : Nat) : Bool := number != 0 && !passedOver.contains number

/-- The number of a signal that is written as a number or a name. Zero is written `EXIT`, too. -/
def signalNumber? (text : Octets) : Option Nat :=
  if !text.isEmpty && text.all Char.isDigit then
    let number := text.foldl (fun value digit => value * 10 + (digit.toNat - '0'.toNat)) 0
    if number ≤ greatestSignal then some number else none
  else
    let name := String.ofList (text.map Char.toUpper)
    if name = "EXIT" then some 0
    else (signalTable.find? (·.1 == name)).map (·.2.1)

/-- The name of a signal; the end of a script has the number zero. -/
def signalName (number : Nat) : String :=
  if number = 0 then "EXIT"
  else
    match signalTable.find? (·.2.1 == number) with
    | some entry => entry.1
    | none => toString number

/-- The words for a signal. -/
def signalDescription (number : Nat) : String :=
  match signalTable.find? (·.2.1 == number) with
  | some entry => entry.2.2
  | none => s!"Unknown signal {number}"

end BuildMonitor.Script
