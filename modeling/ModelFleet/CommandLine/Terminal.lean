/-!
# Text for a terminal and without one

A terminal takes some sequences of characters for orders: to change the style, to set its title, and
so on.  Where there is no terminal, such sequences are left out, and so are control characters other
than the blank ones.  The sequences are told apart by a machine with the modes of a terminal.
-/

namespace ModelFleet.Terminal

/-- The character that begins a sequence. -/
def escape : Char := '\x1b'

/-- What a terminal is reading. -/
inductive Mode
  | ground
  | escape
  | escapeBetween
  | controlStart
  | controlNumber
  | controlBetween
  | controlSkip
  | deviceStart
  | deviceNumber
  | deviceBetween
  | deviceSkip
  | deviceText
  | systemText
  | message
  deriving DecidableEq

/-- Whether a character ends a text for a device: one of the bytes that write it is `9C`. -/
def endsDevice (c : Char) : Bool :=
  let n := c.toNat
  0x80 ≤ n && (n % 64 = 0x1C || (0x800 ≤ n && n / 64 % 64 = 0x1C)
    || (0x10000 ≤ n && n / 4096 % 64 = 0x1C))

namespace Mode

/-- Whether a mode passes over all of a text that is not meant for people. -/
def isDevice : Mode → Bool
  | deviceStart | deviceNumber | deviceBetween | deviceSkip | deviceText | systemText
  | message => true
  | _ => false

/-- The mode after the first character of a sequence. -/
def ofIntroducer (c : Char) : Mode :=
  match c with
  | '[' => controlStart
  | ']' => systemText
  | 'P' => deviceStart
  | 'X' | '^' | '_' => message
  | c => if ' ' ≤ c ∧ c ≤ '/' then escapeBetween else ground

/-- The mode after a character of a sequence that has a number, signs between, and an end. -/
def ofPart (mode number between skip done : Mode) (c : Char) : Mode :=
  if c ≤ '/' then between
  else if c ≤ ';' then if mode = between then skip else number
  else if c ≤ '?' then if mode = between ∨ mode = number then skip else number
  else done

def afterVisible (mode : Mode) (c : Char) : Mode :=
  match mode with
  | ground => ground
  | escape => ofIntroducer c
  | escapeBetween => if c ≤ '/' then escapeBetween else ground
  | controlStart | controlNumber | controlBetween =>
    ofPart mode controlNumber controlBetween controlSkip ground c
  | controlSkip => if c ≤ '?' then controlSkip else ground
  | deviceStart | deviceNumber | deviceBetween =>
    ofPart mode deviceNumber deviceBetween deviceSkip deviceText c
  | deviceSkip => deviceSkip
  | deviceText => deviceText
  | systemText => systemText
  | message => message

def next (mode : Mode) (c : Char) : Mode :=
  if c = Terminal.escape then escape
  else if c = '\x18' ∨ c = '\x1a' then ground
  else if ' ' ≤ c ∧ c ≤ '~' then afterVisible mode c
  else if c = '\x07' ∧ mode = systemText then ground
  else if endsDevice c ∧ (mode = deviceSkip ∨ mode = deviceText ∨ mode = message) then ground
  else mode

end Mode

def isBlankControl (c : Char) : Bool := c = '\t' || c = '\n' || c = '\x0c' || c = '\r'

/-- Whether people see a character that comes in a mode. -/
def isShown (mode : Mode) (c : Char) : Bool :=
  if isBlankControl c then !mode.isDevice
  else mode = .ground && ' ' ≤ c && c ≠ '\x7f'

/-- Leaves out what is meant for a terminal.  Once something is shown, all that can be shown is
shown, up to the next control character. -/
def plainList (mode : Mode) (showing : Bool) : List Char → List Char
  | [] => []
  | c :: rest =>
    if isShown (if showing then .ground else mode) c then
      c :: plainList (if c ≤ '~' then mode else .ground) true rest
    else plainList (mode.next c) false rest

/-- A text without what is meant for a terminal. -/
def plain (s : String) : String := String.ofList (plainList .ground false s.toList)

def bold (s : String) : String := s!"\x1b[1m{s}\x1b[0m"

def marked (s : String) : String := s!"\x1b[33m{s}\x1b[0m"

end ModelFleet.Terminal
