import GuardedInstall.Console.Styled
import GuardedInstall.Program

/-!
# Printing

What the program says goes to one of two streams. Most lines begin with the
program's name in brackets, in a colour that tells how the line is meant. A
transcript is all that was written to one stream.
-/

namespace GuardedInstall.Console

/-- The two streams of a program. -/
inductive Stream where
  | out
  | err
  deriving DecidableEq, Repr

/-- How a line is meant. -/
inductive Level where
  | info
  | warning
  | error
  | alert
  deriving DecidableEq, Repr

namespace Level

/-- The stream of a level. Alerts are for the user to read and go where progress
goes. -/
def stream : Level → Stream
  | info => .out
  | warning => .err
  | error => .err
  | alert => .out

/-- The style of the program's name at a level. -/
def style : Level → String
  | info => "green"
  | warning => "yellow"
  | error => "red"
  | alert => "red"

end Level

/-- Something that is printed: a styled text, a text that is written as it is,
or the sign that the program waits. -/
inductive Print where
  | styled (stream : Stream) (text : Styled)
  | verbatim (stream : Stream) (text : String)
  | waiting (message : String)
  deriving DecidableEq, Repr

/-- A message behind the program's name in brackets. -/
def tagged (message : Styled) (style : String) : Styled :=
  Styled.unstyled "[" ++ Styled.ofString Program.name style ++ Styled.unstyled "] " ++ message

namespace Print

/-- A line on a stream. -/
def line (stream : Stream) (text : Styled) : Print :=
  .styled stream (text ++ Styled.unstyled "\n")

/-- A tagged line at a level. -/
def message (level : Level) (text : Styled) : Print :=
  line level.stream (tagged text level.style)

/-- A tagged line of plain text at a level. -/
def say (level : Level) (text : String) : Print :=
  message level (Styled.unstyled text)

/-- An empty line. -/
def blank (stream : Stream) : Print :=
  line stream []

/-- The characters with which a terminal starts the current line anew. -/
def restartLine : String := "\r\x1b[2K"

/-- One frame of the sign that the program waits. -/
def waitingFrame (message : String) : String :=
  restartLine ++ "\x1b[32m⠋\x1b[0m " ++ message

/-- What a terminal is sent while the program waits: the cursor is hidden, two
frames are shown, and the line is taken away. -/
def waitingText (message : String) : String :=
  "\x1b[?25l" ++ waitingFrame message ++ waitingFrame message ++
    "\n\x1b[?25h\r\x1b[1A\x1b[2K"

/-- The stream of a print. -/
def stream : Print → Stream
  | styled stream _ => stream
  | verbatim stream _ => stream
  | waiting _ => .err

/-- What is written for a print. Only a terminal shows that the program waits. -/
def text (colour : Bool) : Print → List Char
  | styled _ text => text.draw colour
  | verbatim _ text => text.toList
  | waiting message => if colour then (waitingText message).toList else []

end Print

/-- All that was written to a stream. -/
def transcript (colour : Bool) (stream : Stream) (prints : List Print) : String :=
  String.ofList ((prints.filter (·.stream == stream)).flatMap (·.text colour))

end GuardedInstall.Console
