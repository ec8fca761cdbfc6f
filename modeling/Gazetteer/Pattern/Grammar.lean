/-
# Gazetteer.Pattern.Grammar -- reading a pattern

`Node.ofText?` reads a pattern by recursive descent: an alternation of sequences of items, each an
atom with any number of repetitions behind it. It answers `none` for a text that is no pattern:
brackets that do not match, a repetition of nothing, bounds that are none, a range that runs
backwards, an unknown escape or flag, references back and conditions on the text around.

Three kinds of pattern are refused although an engine takes them; no embedded country needs one:
classes by a property of Unicode (`\p{..}`, `\pL` and their negations by `\P`), the flags `x` for
white space without meaning and `R` for line ends of two characters, and a `u` that is switched off.

Each function takes the text that is left and gives back what it did not use. The recursion is on a
bound; `Node.ofText?` takes three steps for every character, which is more than any pattern needs.
-/
import Gazetteer.Pattern.Syntax
import Gazetteer.Text.Scan
import Gazetteer.Text.WordChars

namespace Gazetteer.Pattern

open scoped Powers

/-! ## Escapes -/

/-- What stands behind a backslash. -/
inductive Escape where
  | literal (c : Char)
  | anchor (a : Anchor)
  | blank (negated : Bool)
  deriving DecidableEq, Repr

/-- The value of a hexadecimal digit. -/
def hexDigit? (c : Char) : Option Nat :=
  if c.isDigit then some (c.toNat - 48)
  else if 'a' ≤ c && c ≤ 'f' then some (c.toNat - 87)
  else if 'A' ≤ c && c ≤ 'F' then some (c.toNat - 55)
  else none

/-- The character whose code point is written in hexadecimal, if there is one. -/
def hexChar? (digits : Text) : Option Char := do
  let values ← digits.mapM hexDigit?
  let n := values.foldl (fun n d => 16 * n + d) 0
  if n < 0xD800 || (0xDFFF < n && n < 0x110000) then some (Char.ofNat n) else none

/-- A code point of `count` hexadecimal digits, or of any number of them in braces. -/
def hexEscape? (count : Nat) : Text → Option (Char × Text)
  | '{' :: rest =>
    match Text.cut? ['}'] rest with
    | some (digits, rest) =>
      if digits.isEmpty then none else (hexChar? digits).map (fun c => (c, rest))
    | none => none
  | rest =>
    if rest.length < count then none
    else (hexChar? (rest.take count)).map (fun c => (c, rest.drop count))

/-- Whether a backslash may stand before a character that means nothing special: every ASCII
character but letters, digits and the angle brackets. -/
def isEscapable (c : Char) : Bool := c.toNat < 128 && !c.isAlphanum && c != '<' && c != '>'

/-- The kinds of word boundary that are written by name in braces. -/
def namedBoundary? (name : Text) : Option Anchor :=
  if name = "start".toList then some .wordStart
  else if name = "end".toList then some .wordEnd
  else if name = "start-half".toList then some .wordStartHalf
  else if name = "end-half".toList then some .wordEndHalf
  else none

/-- Whether a character may stand in the name of a word boundary. -/
def isBoundaryNameChar (c : Char) : Bool := c.isAlpha || c == '-'

/-- A word boundary, which may be followed by the name of its kind in braces. Braces that do not
start with a letter or hyphen are left to be read as a repetition. -/
def boundary? : Text → Option (Escape × Text)
  | '{' :: rest =>
    let name := rest.takeWhile isBoundaryNameChar
    if rest.isEmpty then none
    else if name.isEmpty then some (.anchor .wordBoundary, '{' :: rest)
    else
      match rest.drop name.length with
      | '}' :: rest => (namedBoundary? name).map (fun a => (.anchor a, rest))
      | _ => none
  | rest => some (.anchor .wordBoundary, rest)

/-- Reads what stands behind a backslash. -/
def escape? : Text → Option (Escape × Text)
  | [] => none
  | c :: rest =>
    match c with
    | 'x' => (hexEscape? 2 rest).map (fun (c, rest) => (.literal c, rest))
    | 'u' => (hexEscape? 4 rest).map (fun (c, rest) => (.literal c, rest))
    | 'U' => (hexEscape? 8 rest).map (fun (c, rest) => (.literal c, rest))
    | 's' => some (.blank false, rest)
    | 'S' => some (.blank true, rest)
    | 'a' => some (.literal '\x07', rest)
    | 'f' => some (.literal '\x0C', rest)
    | 't' => some (.literal '\t', rest)
    | 'n' => some (.literal '\n', rest)
    | 'r' => some (.literal '\r', rest)
    | 'v' => some (.literal '\x0B', rest)
    | 'A' => some (.anchor .textStart, rest)
    | 'z' => some (.anchor .textEnd, rest)
    | 'b' => boundary? rest
    | 'B' => some (.anchor .notWordBoundary, rest)
    | '<' => some (.anchor .wordStart, rest)
    | '>' => some (.anchor .wordEnd, rest)
    | c => if isEscapable c then some (.literal c, rest) else none

/-- An escape as a node. -/
def Escape.node : Escape → Node
  | .literal c => .literal c
  | .anchor a => .anchor a
  | .blank negated => .set (.blank negated)

/-! ## Classes -/

/-- How two lists in a class are combined. -/
inductive SetOperator where
  | intersection
  | difference
  | symmetricDifference
  deriving DecidableEq, Repr

/-- Combines two sets. -/
def SetOperator.apply : SetOperator → CharSet → CharSet → CharSet
  | .intersection => .intersection
  | .difference => .difference
  | .symmetricDifference => .symmetricDifference

/-- Combines a list with the operand that waits for it, if there is one. -/
def closeOperand (waiting : Option (SetOperator × CharSet)) (current : CharSet) : CharSet :=
  match waiting with
  | some (operator, left) => operator.apply left current
  | none => current

/-- A character of a class, or an escape. -/
def classAtom? : Text → Option (Escape × Text)
  | [] => none
  | '\\' :: rest => escape? rest
  | c :: rest => some (.literal c, rest)

/-- An item of a class as a set; conditions on a place are none. -/
def Escape.set? : Escape → Option CharSet
  | .literal c => some (.single c)
  | .blank negated => some (.blank negated)
  | .anchor _ => none

/-- A single item of a class or a range. A hyphen before the closing bracket, or before another
hyphen, makes no range. -/
def classItem? (t : Text) : Option (CharSet × Text) :=
  classAtom? t >>= fun (first, rest) =>
    match rest with
    | '-' :: ']' :: _ | '-' :: '-' :: _ => first.set?.map (fun s => (s, rest))
    | '-' :: rest =>
      classAtom? rest >>= fun (second, rest) =>
        match first, second with
        | .literal lo, .literal hi => if lo ≤ hi then some (.range lo hi, rest) else none
        | _, _ => none
    | _ => first.set?.map (fun s => (s, rest))

/-- A class written by name between `[:` and `:]`, maybe negated. -/
def namedClass? (t : Text) : Option (CharSet × Text) :=
  "[:".toList.isPrefixOf? t >>= fun rest =>
    let negated := rest.head? == some '^'
    let rest := if negated then rest.tail else rest
    Text.cut? [':'] rest >>= fun (name, rest) =>
      match rest with
      | ']' :: rest => (CharSet.rangesNamed? name).map (fun ranges => (.named negated ranges, rest))
      | _ => none

/-- Hyphens at the front of a class stand for themselves. -/
def leadingHyphens : Text → CharSet × Text
  | '-' :: rest =>
    let (set, rest) := leadingHyphens rest
    (.union (.single '-') set, rest)
  | rest => (.nothing, rest)

/-- The front of a class behind its opening bracket: whether it is negated, and the hyphens or the
closing bracket that stand there for themselves. -/
def classFront (t : Text) : Bool × CharSet × Text :=
  let (negated, rest) := match t with
    | '^' :: rest => (true, rest)
    | rest => (false, rest)
  match rest with
  | ']' :: rest => (negated, .single ']', rest)
  | rest => (negated, leadingHyphens rest)

mutual

/-- A class behind its opening bracket, up to and with its closing bracket. -/
def bracket? : Nat → Text → Option (CharSet × Text)
  | 0, _ => none
  | bound + 1, t =>
    let (negated, front, rest) := classFront t
    (classItems? bound none front rest).map (fun (s, rest) => (.bracket negated s, rest))

/-- The items of a class up to and with its closing bracket: an operand that waits, what the list
at hand holds so far, and the text. -/
def classItems? :
    Nat → Option (SetOperator × CharSet) → CharSet → Text → Option (CharSet × Text)
  | 0, _, _, _ => none
  | bound + 1, waiting, current, t =>
    match t with
    | [] => none
    | ']' :: rest => some (closeOperand waiting current, rest)
    | '&' :: '&' :: rest =>
      classItems? bound (some (.intersection, closeOperand waiting current)) .nothing rest
    | '-' :: '-' :: rest =>
      classItems? bound (some (.difference, closeOperand waiting current)) .nothing rest
    | '~' :: '~' :: rest =>
      classItems? bound (some (.symmetricDifference, closeOperand waiting current)) .nothing rest
    | '[' :: rest =>
      match namedClass? t with
      | some (item, rest) => classItems? bound waiting (.union current item) rest
      | none =>
        match bracket? bound rest with
        | some (item, rest) => classItems? bound waiting (.union current item) rest
        | none => none
    | _ =>
      match classItem? t with
      | some (item, rest) => classItems? bound waiting (.union current item) rest
      | none => none

end

/-! ## Repetitions -/

/-- How often an item is to be repeated. -/
structure Bounds where
  least : Nat
  most : Option Nat
  deriving DecidableEq, Repr

/-- Whether the least number of a repetition is no more than the greatest. -/
def Bounds.isValid (b : Bounds) : Bool :=
  match b.most with
  | some most => b.least ≤ most
  | none => true

/-- A number in a repetition, with white space around it. -/
def count? (t : Text) : Option (Nat × Text) :=
  let t := Text.trimStart t
  let digits := t.takeWhile Char.isDigit
  let n := digits.foldl (fun n c => 10 * n + (c.toNat - 48)) 0
  if digits.isEmpty || 2 ^ (32 : Nat) ≤ n then none
  else some (n, Text.trimStart (t.drop digits.length))

/-- The bounds of a counted repetition behind its opening brace. -/
def counted? (t : Text) : Option (Bounds × Text) :=
  count? t >>= fun (least, rest) =>
    match rest with
    | '}' :: rest => some (⟨least, some least⟩, rest)
    | ',' :: '}' :: rest => some (⟨least, none⟩, rest)
    | ',' :: rest =>
      count? rest >>= fun (most, rest) =>
        match rest with
        | '}' :: rest => some (⟨least, some most⟩, rest)
        | _ => none
    | _ => none

/-- A question mark behind a repetition makes it lazy, which changes where a match ends but not
whether there is one. -/
def dropLazy : Text → Text
  | '?' :: rest => rest
  | rest => rest

/-- What comes behind an item: nothing of a repetition, a repetition, or a broken one. -/
inductive RepetitionMark where
  | absent
  | broken
  | present (bounds : Bounds) (rest : Text)

/-- Reads the mark of a repetition. -/
def repetitionMark : Text → RepetitionMark
  | '?' :: rest => .present ⟨0, some 1⟩ (dropLazy rest)
  | '*' :: rest => .present ⟨0, none⟩ (dropLazy rest)
  | '+' :: rest => .present ⟨1, none⟩ (dropLazy rest)
  | '{' :: rest =>
    match counted? rest with
    | some (bounds, rest) => if bounds.isValid then .present bounds (dropLazy rest) else .broken
    | none => .broken
  | _ => .absent

/-- Applies the repetitions behind an item. -/
def repeated? : Nat → Node → Text → Option (Node × Text)
  | 0, _, _ => none
  | bound + 1, item, t =>
    match repetitionMark t with
    | .absent => some (item, t)
    | .broken => none
    | .present bounds rest =>
      if item.isRepeatable then
        repeated? bound (.repetition bounds.least bounds.most item) rest
      else none

/-! ## Groups -/

/-- Whether a character may stand in the name of a group, at its start or later. -/
def isNameChar (start : Bool) (c : Char) : Bool :=
  if start then c == '_' || (Text.isWordChar c && !c.isDigit)
  else c == '_' || c == '.' || c == '[' || c == ']' || Text.isWordChar c

/-- The name of a group up to its closing angle bracket. -/
def groupName? (t : Text) : Option (Text × Text) :=
  Text.cut? ['>'] t >>= fun (name, rest) =>
    match name with
    | [] => none
    | c :: others =>
      if isNameChar true c && others.all (isNameChar false) then some (name, rest) else none

/-- Records one flag of a change. The flags for Unicode and for swapped greed may be set, and change
nothing about whether there is a match. -/
def FlagChange.record? (change : FlagChange) (value : Bool) : Char → Option FlagChange
  | 'i' => some { change with foldCase := some value }
  | 'm' => some { change with multiLine := some value }
  | 's' => some { change with dotAll := some value }
  | 'U' => some change
  | 'u' => if value then some change else none
  | _ => none

/-- Reads the flags up to a colon or closing bracket; no flag and no minus sign may stand twice,
and a minus sign needs a flag behind it. The answer tells whether there was any flag. -/
def flags? (seen : Text) (change : FlagChange) : Text → Option (FlagChange × Bool × Char × Text)
  | [] => none
  | c :: rest =>
    if c == ':' || c == ')' then
      if seen.head? == some '-' then none else some (change, !seen.isEmpty, c, rest)
    else if seen.contains c then none
    else if c == '-' then flags? (c :: seen) change rest
    else
      match change.record? (!seen.contains '-') c with
      | some change => flags? (c :: seen) change rest
      | none => none

/-- What opens behind a round bracket. -/
inductive GroupFront where
  /-- A group with its name, if it has one, and its flags. -/
  | body (name : Option Text) (change : FlagChange) (rest : Text)
  /-- A change of flags that stands alone. -/
  | alone (change : FlagChange) (rest : Text)

/-- Reads what stands right behind an opening round bracket. -/
def groupFront? : Text → Option GroupFront
  | '?' :: 'P' :: '<' :: rest =>
    (groupName? rest).map (fun (name, rest) => .body (some name) {} rest)
  | '?' :: '<' :: '=' :: _ | '?' :: '<' :: '!' :: _ => none
  | '?' :: '<' :: rest => (groupName? rest).map (fun (name, rest) => .body (some name) {} rest)
  | '?' :: rest =>
    flags? [] {} rest >>= fun (change, any, close, rest) =>
      if close == ':' then some (.body none change rest)
      else if any then some (.alone change rest)
      else none
  | rest => some (.body none {} rest)

/-! ## Patterns -/

mutual

/-- Alternatives up to a closing bracket or the end. -/
def alternation? : Nat → Text → Option (Node × Text)
  | 0, _ => none
  | bound + 1, t =>
    match sequence? bound t with
    | none => none
    | some (first, '|' :: rest) =>
      (alternation? bound rest).map (fun (others, rest) => (.alternation first others, rest))
    | some (first, rest) => some (first, rest)

/-- Items up to a bar, a closing bracket or the end. -/
def sequence? : Nat → Text → Option (Node × Text)
  | 0, _ => none
  | bound + 1, t =>
    if t.isEmpty || t.head? == some '|' || t.head? == some ')' then some (.empty, t)
    else
      match atom? bound t with
      | none => none
      | some (item, rest) =>
        match repeated? (rest.length + 1) item rest with
        | none => none
        | some (item, rest) =>
          (sequence? bound rest).map (fun (others, rest) => (item.before others, rest))

/-- One item without its repetitions. -/
def atom? : Nat → Text → Option (Node × Text)
  | 0, _ => none
  | bound + 1, t =>
    match t with
    | [] => none
    | '(' :: rest =>
      match groupFront? rest with
      | none => none
      | some (.alone change rest) => some (.setFlags change, rest)
      | some (.body name change rest) =>
        match alternation? bound rest with
        | some (body, ')' :: rest) => some (.group name change body, rest)
        | _ => none
    | '[' :: rest => (bracket? bound rest).map (fun (s, rest) => (.set s, rest))
    | '\\' :: rest => (escape? rest).map (fun (e, rest) => (e.node, rest))
    | '.' :: rest => some (.anyChar, rest)
    | '^' :: rest => some (.caret, rest)
    | '$' :: rest => some (.dollar, rest)
    | '?' :: _ | '*' :: _ | '+' :: _ | '{' :: _ => none
    | c :: rest => some (.literal c, rest)

end

/-- How deep a pattern may be nested. -/
def depthLimit : Nat := 250

/-- Reads a pattern; its groups have different names, and it is not nested too deep. -/
def Node.ofText? (t : Text) : Option Node :=
  match alternation? (3 * t.length + 3) t with
  | some (node, []) =>
    if node.names.Nodup ∧ node.depth ≤ depthLimit then some node else none
  | _ => none

end Gazetteer.Pattern
