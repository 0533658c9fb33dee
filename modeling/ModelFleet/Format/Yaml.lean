import ModelFleet.Format.Scan
import ModelFleet.Number.Integer
import ModelFleet.Number.Reader

/-!
# YAML documents

Blocks are told apart by how far their lines are indented, and collections between brackets by
commas.  Plain words become truth values and numbers where they look like them; texts between quotes
and texts of whole lines stay texts.  A value that has been given a name can be referred to behind it.
There is one document.
-/

namespace ModelFleet.Yaml

open Format

/-! ### Values with names -/

/-- What a document holds while references to named values are still in it. -/
inductive Node
  | scalar (value : Json)
  | list (items : List Node)
  | table (members : List (String × Node))
  | named (name : String) (node : Node)
  | reference (name : String)

instance : Inhabited Node := ⟨.scalar .null⟩

/-- The values that names stand for, the last given first; a name whose value has begun but not ended
stands for none. -/
abbrev Names := List (String × Option Json)

mutual

/-- The document of a node; a reference to a name that has not been given makes it none. -/
def Node.resolve (names : Names) : Node → Option (Json × Names)
  | .scalar value => some (value, names)
  | .list items => (resolveItems names items).map fun (items, names) => (.arr items, names)
  | .table members =>
    (resolveMembers names members).map fun (members, names) => (.object members, names)
  | .named name node =>
    (node.resolve ((name, none) :: names)).map fun (value, names) =>
      (value, (name, some value) :: names)
  | .reference name => (names.lookup name).map fun value => (value.getD .null, names)

def resolveItems (names : Names) : List Node → Option (List Json × Names)
  | [] => some ([], names)
  | node :: rest => do
    let (value, names) ← node.resolve names
    let (values, names) ← resolveItems names rest
    some (value :: values, names)

/-- The members of a table as members of a document. -/
def resolveMembers (names : Names) :
    List (String × Node) → Option (List (String × Json) × Names)
  | [] => some ([], names)
  | (key, node) :: rest => do
    let (value, names) ← node.resolve names
    let (members, names) ← resolveMembers names rest
    some ((key, value) :: members, names)

end

/-! ### Lines -/

def isSpace (c : Char) : Bool := c = ' ' || c = '\t'

def skipSpace (cs : List Char) : List Char := cs.dropWhile isSpace

/-- Whether a word ends in front of characters. -/
def isGap : List Char → Bool
  | [] => true
  | c :: _ => isSpace c || c = '\n'

def isMarker (cs : List Char) : Bool :=
  ((afterWord? "---" cs).or (afterWord? "..." cs)).any isGap

def nextLine (cs : List Char) : List Char := (cs.dropWhile (· ≠ '\n')).drop 1

/-- What is left behind the end of a line on which at most a comment follows. -/
def lineEnd? (cs : List Char) : Option (List Char) :=
  match skipSpace cs with
  | [] => some []
  | '\n' :: rest => some rest
  | '#' :: rest => some (nextLine rest)
  | _ => none

/-- The next line that says something, as its indentation and what follows that; nothing at the end
of the document. -/
def content? : Nat → List Char → Option (Nat × List Char)
  | 0, _ => none
  | fuel + 1, cs =>
    let column := (cs.takeWhile (· = ' ')).length
    let line := cs.drop column
    match skipSpace line with
    | [] => none
    | '\n' :: rest => content? fuel rest
    | '#' :: rest => content? fuel (nextLine rest)
    | _ => if column = 0 && isMarker line then none else some (column, line)

def content (cs : List Char) : Option (Nat × List Char) := content? (cs.length + 1) cs

/-! ### Words -/

/-- The names of infinity and of what is not a number that no number is read from. -/
def specialReals : List String :=
  [".inf", ".Inf", ".INF", "+.inf", "+.Inf", "+.INF", "-.inf", "-.Inf", "-.INF", ".nan", ".NAN"]

/-- The value of digits of a base that take up a word. -/
def inBase? (base : Nat) (digits : List Char) : Option Json :=
  if digits.isEmpty || !digits.all (isDigitOf base) then none
  else int64? (valueOf base digits)

def integer? (s : String) : Option Json :=
  match s.toList with
  | '0' :: 'x' :: digits => inBase? 16 digits
  | '0' :: 'o' :: digits => inBase? 8 digits
  | _ => (Integer.read64 s).toOption.map .int

/-- What a plain word stands for. -/
def resolve (s : String) : Option Json :=
  if s = "" ∨ s = "~" ∨ s = "null" then some .null
  else if s = "true" then some (.bool true)
  else if s = "false" then some (.bool false)
  else if specialReals.contains s then none
  else some (((integer? s).or ((Binary64.read? s).map .real)).getD (.str s))

/-- The text of a key: a text, or an integer in words. -/
def keyText : Json → Option String
  | .str s => some s
  | .int n => some (toString n)
  | _ => none

/-! ### Plain texts -/

def isBracketSign (c : Char) : Bool :=
  c = ',' || c = '[' || c = ']' || c = '\x7b' || c = '\x7d'

/-- Whether a plain text may go on behind a dash, a question mark or a colon. -/
def goesOn (inside : Bool) (cs : List Char) : Bool :=
  !isGap cs && !(inside && cs.head?.any isBracketSign)

def isPlainStart (inside : Bool) : List Char → Bool
  | [] => false
  | c :: rest =>
    if c = '-' || c = '?' || c = ':' then goesOn inside rest
    else !(isSpace c || c = '\n' || isBracketSign c || "#&*!|>'\"%@`".toList.contains c)

/-- The plain text on a line and what ends it. -/
def plainLine (inside : Bool) : (afterSpace : Bool) → List Char → List Char × List Char
  | _, [] => ([], [])
  | afterSpace, c :: rest =>
    if c = '\n' || (c = '#' && afterSpace) || (c = ':' && !goesOn inside rest)
        || (inside && isBracketSign c) then ([], c :: rest)
    else
      let (more, rest) := plainLine inside (isSpace c) rest
      (c :: more, rest)

def trimEnd (cs : List Char) : List Char := (cs.reverse.dropWhile isSpace).reverse

/-- What stands for so many ends of lines inside a text. -/
def folded (newlines : Nat) : List Char :=
  if newlines = 1 then [' '] else List.replicate (newlines - 1) '\n'

/-- The ends of lines in front, with the indentation of the line behind them. -/
def breaks (cs : List Char) : Nat × Nat × List Char :=
  let gap := cs.takeWhile fun c => isSpace c || c = '\n'
  (gap.count '\n', (gap.reverse.takeWhile (· ≠ '\n')).length, cs.drop gap.length)

/-- A plain text that may go on over lines that are indented at least so far. -/
def plainText (inside : Bool) (least : Nat) : Nat → List Char → List Char × List Char
  | 0, cs => ([], cs)
  | fuel + 1, cs =>
    let (first, rest) := plainLine inside false cs
    let (newlines, column, next) := breaks rest
    let stops := newlines = 0 || next.isEmpty || column < least || next.head? = some '#'
      || (column = 0 && isMarker next) || (inside && !isPlainStart true next)
    if stops then (trimEnd first, rest)
    else
      let (more, rest) := plainText inside least fuel next
      (trimEnd first ++ folded newlines ++ more, rest)

/-! ### Texts between quotes -/

/-- The character that a backslash and what follows it stand for. -/
def escaped : Scan Char
  | 'x' :: rest => codePoint 2 rest
  | 'u' :: rest => codePoint 4 rest
  | 'U' :: rest => codePoint 8 rest
  | c :: rest =>
    ([('0', '\x00'), ('a', '\x07'), ('b', '\x08'), ('t', '\t'), ('\t', '\t'), ('n', '\n'),
      ('v', '\x0b'), ('f', '\x0c'), ('r', '\r'), ('e', '\x1b'), (' ', ' '), ('"', '"'),
      ('\'', '\''), ('/', '/'), ('\\', '\\'), ('N', '\u0085'), ('_', '\u00a0'),
      ('L', '\u2028'), ('P', '\u2029')].lookup c).map (·, rest)
  | [] => none

/-- The characters of a text up to its closing quote, behind others, last first. -/
def quotedText (quote : Char) : Nat → List Char → Scan String
  | 0, _, _ => none
  | _ + 1, _, [] => none
  | fuel + 1, found, c :: rest =>
    if c = quote then
      if quote = '\'' ∧ rest.head? = some '\'' then quotedText quote fuel ('\'' :: found) (rest.drop 1)
      else some (String.ofList found.reverse, rest)
    else if c = '\\' ∧ quote = '"' then
      match rest with
      | '\n' :: rest =>
        let (newlines, _, rest) := breaks rest
        quotedText quote fuel (List.replicate newlines '\n' ++ found) rest
      | rest => do
        let (c, rest) ← escaped rest
        quotedText quote fuel (c :: found) rest
    else
      let (newlines, column, next) := breaks (c :: rest)
      if newlines = 0 then quotedText quote fuel (c :: found) rest
      else if column = 0 && isMarker next then none
      else quotedText quote fuel ((folded newlines).reverse ++ found) next

def quoted (quote : Char) : Scan String := fun cs => quotedText quote (cs.length + 1) [] cs

/-! ### Texts of whole lines -/

/-- How the ends of a text of whole lines are treated. -/
inductive Ends
  | one
  | none
  | all
  deriving DecidableEq

/-- The signs behind the mark of a text of whole lines: what happens to its end, and how far its
lines are indented if that is said. -/
def blockSigns (cs : List Char) : Option (Ends × Option Nat × List Char) :=
  let signs := cs.takeWhile fun c => c = '+' || c = '-' || c.isDigit
  let digits := signs.filter Char.isDigit
  let marks := signs.filter fun c => !c.isDigit
  if 1 < digits.length ∨ 1 < marks.length ∨ digits = ['0'] then Option.none
  else
    let ends := match marks with
      | ['+'] => Ends.all
      | ['-'] => Ends.none
      | _ => Ends.one
    (lineEnd? (cs.drop signs.length)).map fun rest =>
      (ends, if digits.isEmpty then Option.none else some (valueOf 10 digits), rest)

def isBlankLine (line : List Char) : Bool := line.all (· = ' ')

/-- The lines of a text that are indented so far, without their indentation. -/
def blockLines (column : Nat) : Nat → List Char → List (List Char) × List Char
  | 0, cs => ([], cs)
  | _ + 1, [] => ([], [])
  | fuel + 1, cs =>
    let line := cs.takeWhile (· ≠ '\n')
    let indent := (line.takeWhile (· = ' ')).length
    if (indent < column && !isBlankLine line) || (column = 0 && isMarker line) then ([], cs)
    else
      let (more, rest) := blockLines column fuel (nextLine cs)
      (line.drop column :: more, rest)

/-- How far the first line that is not blank is indented. -/
def firstIndent : Nat → List Char → Nat
  | 0, _ => 0
  | fuel + 1, cs =>
    let line := cs.takeWhile (· ≠ '\n')
    if isBlankLine line && !cs.isEmpty then firstIndent fuel (nextLine cs)
    else (line.takeWhile (· = ' ')).length

/-- Lines folded into one text: an end of a line becomes a blank, unless a line next to it is
indented further; further ends of lines stay. -/
def foldLines : Bool → List (List Char) → List Char
  | _, [] => []
  | _, [line] => line
  | keeps, line :: rest =>
    let isDeep (line : List Char) : Bool := line.head?.any isSpace
    match rest with
    | [] => line
    | next :: _ =>
      if line.isEmpty then '\n' :: foldLines keeps rest
      else if isDeep line || isDeep next then line ++ '\n' :: foldLines true rest
      else if next.isEmpty then
        let after := (rest.dropWhile List.isEmpty).head?
        line ++ (if after.any isDeep then ['\n'] else []) ++ foldLines false rest
      else line ++ ' ' :: foldLines false rest

def blockText (folds : Bool) (least : Nat) : Scan String := fun cs => do
  let (ends, said, cs) ← blockSigns cs
  let column := match said with
    | some n => least - 1 + n
    | Option.none => max least (firstIndent (cs.length + 1) cs)
  let (lines, rest) := blockLines column (cs.length + 1) cs
  let body := (lines.reverse.dropWhile List.isEmpty).reverse
  let text := if folds then foldLines false body else ['\n'].intercalate body
  let tail := match ends with
    | .none => []
    | .one => if body.isEmpty then [] else ['\n']
    | .all => List.replicate (lines.length - body.length + if body.isEmpty then 0 else 1) '\n'
  some (String.ofList (text ++ tail), rest)

/-! ### Marks in front of values -/

/-- What stands in front of a value: its name, and whether it is made a text. -/
structure Mark where
  name : Option String
  isText : Bool

def Mark.none : Mark := ⟨Option.none, false⟩

def Mark.give (mark : Mark) (node : Node) : Node :=
  match mark.name with
  | some name => .named name node
  | Option.none => node

def isMarkChar (c : Char) : Bool := !(isSpace c || c = '\n' || isBracketSign c)

/-- The kinds by which a mark says what a plain text is anyway. -/
def plainKinds : List String := ["!bool", "!int", "!float", "!null", "!map", "!seq"]

/-- The marks in front of a value, and what is left behind them. -/
def marks : Nat → Mark → List Char → Mark × List Char
  | 0, mark, cs => (mark, cs)
  | fuel + 1, mark, cs =>
    match cs with
    | c :: rest =>
      let word := String.ofList (rest.takeWhile isMarkChar)
      let rest := skipSpace (rest.dropWhile isMarkChar)
      if c = '&' then marks fuel { mark with name := some word } rest
      else if c = '!' then
        marks fuel { mark with isText := mark.isText || !plainKinds.contains word } rest
      else (mark, cs)
    | [] => (mark, [])

/-- What a plain text with a mark stands for. -/
def Mark.resolve (mark : Mark) (cs : List Char) : Option Json :=
  if mark.isText then some (.str (String.ofList cs)) else Yaml.resolve (String.ofList cs)

def reference (cs : List Char) : Node × List Char :=
  (.reference (String.ofList (cs.takeWhile isMarkChar)), cs.dropWhile isMarkChar)

/-! ### Collections between brackets -/

/-- Drops blanks, ends of lines and comments between brackets. -/
def skipInside : Nat → List Char → List Char
  | 0, cs => cs
  | fuel + 1, cs =>
    match cs.dropWhile fun c => isSpace c || c = '\n' with
    | '#' :: rest => skipInside fuel (nextLine rest)
    | rest => rest

/-- Drops blanks, ends of lines and comments between brackets. -/
def skip (cs : List Char) : List Char := skipInside (cs.length + 1) cs

/-- What is left behind a colon, if that ends a key. -/
def afterColon? (wasQuoted : Bool) : List Char → Option (List Char)
  | ':' :: rest => if wasQuoted || !goesOn true rest then some rest else none
  | _ => none

def isOver (cs : List Char) : Bool := cs.head?.all fun c => c = ',' || c = ']' || c = '\x7d'

def Node.keyText : Node → Option String
  | .scalar value => Yaml.keyText value
  | _ => none

def memberInside (value : Scan Node) : Scan (String × Node) := fun cs => do
  let (k, rest) ← value cs
  let key ← k.keyText
  let wasQuoted := cs.head? = some '"' || cs.head? = some '\''
  match afterColon? wasQuoted (skip rest) with
  | none => some ((key, .scalar .null), rest)
  | some rest =>
    if isOver (skip rest) then some ((key, .scalar .null), rest)
    else do
      let (v, rest) ← value (skip rest)
      some ((key, v), rest)

/-- An item between brackets; a single pair is a table. -/
def itemInside (value : Scan Node) : Scan Node := fun cs => do
  let (v, rest) ← value cs
  let wasQuoted := cs.head? = some '"' || cs.head? = some '\''
  match afterColon? wasQuoted (skip rest) with
  | none => some (v, rest)
  | some _ => do
    let (member, rest) ← memberInside value cs
    some (.table [member], rest)

/-- A value between brackets; the fuel bounds how deep it is nested. -/
def inside : Nat → Scan Node
  | 0, _ => none
  | depth + 1, cs => do
    let (mark, cs) := marks cs.length .none cs
    let (node, rest) ← match cs with
      | '[' :: rest =>
        (bracketed skip (itemInside (inside depth)) ']' rest).map fun (found, rest) =>
          (Node.list found, rest)
      | '\x7b' :: rest =>
        (bracketed skip (memberInside (inside depth)) '\x7d' rest).map fun (members, rest) =>
          (Node.table members, rest)
      | '"' :: rest => (quoted '"' rest).map fun (s, rest) => (Node.scalar (.str s), rest)
      | '\'' :: rest => (quoted '\'' rest).map fun (s, rest) => (Node.scalar (.str s), rest)
      | '*' :: rest => some (reference rest)
      | cs =>
        if isPlainStart true cs then
          let (word, rest) := plainText true 0 (cs.length + 1) cs
          (mark.resolve word).map fun v => (Node.scalar v, rest)
        else if (mark.isText || mark.name.isSome) && isOver cs then
          some (.scalar (if mark.isText then .str "" else .null), cs)
        else none
    some (mark.give node, rest)

/-! ### Blocks -/

def isItem : List Char → Bool
  | '-' :: rest => isGap rest
  | _ => false

/-- The key of a member that begins, and what follows its colon. -/
def key? (cs : List Char) : Option (String × List Char) := do
  let (k, rest) ← match cs with
    | '"' :: rest => (quoted '"' rest).map fun (s, rest) => (Json.str s, rest)
    | '\'' :: rest => (quoted '\'' rest).map fun (s, rest) => (Json.str s, rest)
    | cs =>
      if isPlainStart false cs then
        let (word, rest) := plainLine false false cs
        (resolve (String.ofList (trimEnd word))).map (·, rest)
      else none
  match skipSpace rest with
  | ':' :: rest => if isGap rest then (keyText k).map (·, rest) else none
  | _ => none

/-- A value on a line that is no block, of which further lines are indented at least so far. -/
def inline (least : Nat) (mark : Mark) : Scan Node := fun cs =>
  match cs with
  | '|' :: rest => (blockText false least rest).map fun (s, rest) => (.scalar (.str s), rest)
  | '>' :: rest => (blockText true least rest).map fun (s, rest) => (.scalar (.str s), rest)
  | c :: rest => do
    let (node, rest) ←
      if c = '[' ∨ c = '\x7b' then inside (cs.length + 1) cs
      else if c = '"' ∨ c = '\'' then
        (quoted c rest).map fun (s, rest) => (Node.scalar (.str s), rest)
      else if c = '*' then some (reference rest)
      else if isPlainStart false cs then
        let (word, rest) := plainText false least (cs.length + 1) cs
        (mark.resolve word).map fun v => (Node.scalar v, rest)
      else none
    (lineEnd? rest).map (node, ·)
  | [] => none

mutual

/-- The value that begins in the next line, if that is indented at least so far. -/
def block : Nat → (least : Nat) → Scan Node
  | 0, _, _ => none
  | fuel + 1, least, cs =>
    match content cs with
    | some (column, line) =>
      if least ≤ column then node fuel least column line else some (.scalar .null, cs)
    | none => some (.scalar .null, cs)

/-- The value that begins at a column, inside a block of which the lines are indented at least so
far.  Marks in front of the first key of a table are marks of that key. -/
def node : Nat → (least column : Nat) → Scan Node
  | 0, _, _, _ => none
  | fuel + 1, least, column, cs =>
    let (mark, line) := marks cs.length .none cs
    match lineEnd? line with
    | some rest => (block fuel least rest).map fun (node, rest) => (mark.give node, rest)
    | none =>
      if isItem line then
        (listItems fuel column [] line).map fun (found, rest) => (.list found, rest)
      else if (key? line).isSome then
        (members fuel column [] line).map fun (found, rest) => (.table found, rest)
      else (inline least mark line).map fun (node, rest) => (mark.give node, rest)

/-- The items of a list at a column, behind others, last first. -/
def listItems : Nat → (column : Nat) → List Node → Scan (List Node)
  | 0, _, _, _ => none
  | fuel + 1, column, found, cs => do
    let line := skipSpace (cs.drop 1)
    let (item, rest) ← match lineEnd? (cs.drop 1) with
      | some rest => block fuel (column + 1) rest
      | none => node fuel (column + 1) (column + (cs.length - line.length)) line
    match content rest with
    | none => some ((item :: found).reverse, rest)
    | some (next, line) =>
      if column < next then none
      else if next = column ∧ isItem line then listItems fuel column (item :: found) line
      else some ((item :: found).reverse, rest)

/-- The members of a table at a column, behind others, last first. -/
def members : Nat → (column : Nat) → List (String × Node) → Scan (List (String × Node))
  | 0, _, _, _ => none
  | fuel + 1, column, found, cs => do
    let (key, rest) ← key? cs
    let (mark, line) := marks rest.length .none (skipSpace rest)
    let (value, rest) ← match lineEnd? line with
      | none => inline (column + 1) mark line
      | some rest =>
        match content rest with
        | some (next, line) =>
          if next = column ∧ isItem line then
            (listItems fuel column [] line).map fun (found, rest) => (.list found, rest)
          else block fuel (column + 1) rest
        | none => some (.scalar .null, rest)
    let found := (key, mark.give value) :: found
    match content rest with
    | none => some (found.reverse, rest)
    | some (next, line) =>
      if column < next then none
      else if next = column then members fuel column found line
      else some (found.reverse, rest)

end

/-! ### Documents -/

/-- The value of a document, behind the line that begins it if there is one. -/
def document (cs : List Char) : Option (Node × List Char) :=
  let fuel := 4 * cs.length + 8
  match content cs, afterWord? "---" cs with
  | some (_, '%' :: _), _ => none
  | some _, _ => block fuel 0 cs
  | none, some rest =>
    match lineEnd? rest with
    | some rest => block fuel 0 rest
    | none => inline 0 .none (skipSpace rest)
  | none, none => some (.table [], cs)

/-- Drops lines with directives and comments in front of a document. -/
def skipFront : Nat → List Char → List Char
  | 0, cs => cs
  | fuel + 1, cs =>
    match skipSpace cs with
    | '\n' :: rest => skipFront fuel rest
    | '#' :: rest => skipFront fuel (nextLine rest)
    | [] => []
    | _ => if cs.head? = some '%' then skipFront fuel (nextLine cs) else cs

def isEnd (cs : List Char) : Bool :=
  (content cs).isNone &&
    let rest := skipFront (cs.length + 1) cs
    match afterWord? "..." rest with
    | some rest => (skip rest).isEmpty
    | none => rest.isEmpty

/-- The document that a text holds, if it holds one. -/
def parse (s : String) : Option Json :=
  let cs := (s.replace "\r\n" "\n").toList
  match document (skipFront (cs.length + 1) cs) with
  | some (node, rest) => if isEnd rest then (node.resolve []).map (·.1) else none
  | none => none

end ModelFleet.Yaml
