/-! Key presses with their modifiers, and the mouse wheel. -/

namespace TaskConsole.Input

/-- The key of a key press. -/
inductive KeyCode where
  | char (c : Char)
  | enter
  | esc
  | tab
  | backTab
  | backspace
  | delete
  | up
  | down
  | left
  | right
  | homeKey
  | endKey
  | pageUp
  | pageDown
  | function (n : Nat)
  deriving DecidableEq, Repr

/-- A key press: the key and the modifier keys held. -/
structure KeyPress where
  code : KeyCode
  ctrl : Bool := false
  shift : Bool := false
  alt : Bool := false
  deriving DecidableEq, Repr

/-- Whether the press is the character `c` with Control held. -/
def KeyPress.isCtrl (k : KeyPress) (c : Char) : Bool :=
  k.ctrl && k.code == .char c

/-- What the mouse did: the wheel turned up or down, a button went down, or
the pointer moved. -/
inductive MouseAction where
  | wheelUp
  | wheelDown
  | press
  | move
  deriving DecidableEq, Repr

end TaskConsole.Input
