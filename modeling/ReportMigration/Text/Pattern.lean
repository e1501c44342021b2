import ReportMigration.Fault
/-!
Patterns of text, and where they match.

A pattern is read from its text: `.` is any character but a line end, brackets hold a class of
characters, `*` and `+` repeat what is before them and take as much as they can, or with a `?` behind
as little, round brackets keep what they matched, `(?!` asks that something does not follow, `^` and
`$` are the ends of the text.

* `Pattern.read` is the pattern of a text;
* `Pattern.run` lists the ways in which a pattern matches at a place, the preferred first;
* `Pattern.findAll` are the matches in a text from left to right, none of which overlap.
-/
namespace ReportMigration

/-- A pattern. -/
inductive Pattern where
  | empty
  | char (c : Char)
  /-- Any character but a line end. -/
  | any
  /-- One of some characters, or with `negated` any other. -/
  | oneOf (negated : Bool) (cs : List Char)
  | seq (p q : Pattern)
  /-- At least `least` times; as often as possible if `greedy`. -/
  | many (greedy : Bool) (least : Nat) (p : Pattern)
  | group (p : Pattern)
  | notAhead (p : Pattern)
  | start
  | stop

namespace Pattern

/-- A place in a text, with what was matched on the way to it. -/
structure Place where
  index : Nat
  rest : List Char
  /-- What was matched so far, the last character first. -/
  taken : List Char := []
  /-- What the groups kept, the last group first. -/
  kept : List String := []

/-- The next place, if the next character is suitable. -/
def Place.advance (s : Place) (suits : Char → Bool) : List Place :=
  match s.rest with
  | c :: r => if suits c then [⟨s.index + 1, r, c :: s.taken, s.kept⟩] else []
  | [] => []

/-- The places after at least `least` and at most `fuel` steps, each of which moves on. -/
def repeated (step : Place → List Place) (greedy : Bool) (least : Nat) :
    Nat → Place → List Place
  | 0, s => if least = 0 then [s] else []
  | fuel + 1, s =>
    let further := (step s).flatMap fun t =>
      if t.index = s.index then [] else repeated step greedy (least - 1) fuel t
    if 0 < least then further
    else if greedy then further ++ [s]
    else s :: further

/-- The places where a match that begins at a place can end, the preferred first. -/
def run : Pattern → Place → List Place
  | empty, s => [s]
  | char c, s => s.advance (· = c)
  | any, s => s.advance (· ≠ '\n')
  | oneOf negated cs, s => s.advance fun c => cs.contains c != negated
  | seq p q, s => (run p s).flatMap (run q)
  | many greedy least p, s => repeated (run p) greedy least (s.rest.length + 1) s
  | group p, s => (run p s).map fun t =>
    let text := t.taken.take (t.index - s.index)
    { t with kept := .ofList text.reverse :: t.kept }
  | notAhead p, s => if (run p s).isEmpty then [s] else []
  | start, s => if s.index = 0 then [s] else []
  | stop, s => if s.rest = [] || s.rest = ['\n'] then [s] else []

/-- A match: where it begins, what it matched, and what its groups kept. -/
structure Found where
  index : Nat
  text : String
  groups : List String
  deriving DecidableEq

/-- The matches in the rest of a text. A match that is empty is followed by one that begins further
    on or is not empty. -/
def findFrom (p : Pattern) : Nat → Place → Bool → List Found
  | 0, _, _ => []
  | fuel + 1, s, afterEmpty =>
    let ends := (p.run { s with taken := [], kept := [] }).filter fun t =>
      !(afterEmpty && t.index = s.index)
    match ends with
    | t :: _ =>
      ⟨s.index, .ofList t.taken.reverse, t.kept.reverse⟩ ::
        findFrom p fuel t (t.index = s.index)
    | [] =>
      match s.rest with
      | _ :: r => findFrom p fuel ⟨s.index + 1, r, [], []⟩ false
      | [] => []

/-- The matches in a text. -/
def findAll (p : Pattern) (text : String) : List Found :=
  findFrom p (2 * text.length + 2) ⟨0, text.toList, [], []⟩ false

/-- Patterns one after the other. -/
def sequence : List Pattern → Pattern
  | [] => empty
  | [p] => p
  | p :: ps => seq p (sequence ps)

/-- A class of characters that begins after its bracket, and the rest; a closing bracket counts as a
    member if it is the first. -/
def readClass (cs : List Char) : Option (Pattern × List Char) :=
  let (negated, body) := match cs with
    | '^' :: r => (true, r)
    | r => (false, r)
  (members [] body).map fun (found, rest) => (oneOf negated found, rest)
where
  members (found : List Char) : List Char → Option (List Char × List Char)
    | [] => none
    | '\\' :: c :: r => members (c :: found) r
    | ']' :: r => if found.isEmpty then members [']'] r else some (found, r)
    | c :: r => members (c :: found) r

/-- A pattern with the repetition that follows it, and the rest. -/
def withRepetition (p : Pattern) : List Char → Pattern × List Char
  | '*' :: '?' :: r => (many false 0 p, r)
  | '*' :: r => (many true 0 p, r)
  | '+' :: '?' :: r => (many false 1 p, r)
  | '+' :: r => (many true 1 p, r)
  | r => (p, r)

/-- Reads patterns up to a closing bracket or the end; `index` is the place in the whole text. -/
def readAll (total : Nat) : Nat → List Char → Except Fault (List Pattern × List Char)
  | 0, cs => .ok ([], cs)
  | _ + 1, [] => .ok ([], [])
  | _ + 1, ')' :: r => .ok ([], ')' :: r)
  | fuel + 1, c :: r => do
    let index := total - (r.length + 1)
    let (p, rest) ← match c, r with
      | '\\', e :: r => pure (char e, r)
      | '.', r => pure (any, r)
      | '^', r => pure (start, r)
      | '$', r => pure (stop, r)
      | '[', r =>
        match readClass r with
        | some x => pure x
        | none => .error (unterminated "character set" index)
      | '(', '?' :: '!' :: r => do
        let (ps, rest) ← readAll total fuel r
        pure (notAhead (sequence ps), rest.drop 1)
      | '(', r => do
        let (ps, rest) ← readAll total fuel r
        pure (group (sequence ps), rest.drop 1)
      | c, r => pure (char c, r)
    let (p, rest) := withRepetition p rest
    let (ps, rest) ← readAll total fuel rest
    return (p :: ps, rest)
where
  unterminated (what : String) (index : Nat) : Fault :=
    .failure (.named "error") ("unterminated " ++ what ++ " at position " ++ toString index)

/-- The pattern that a text stands for. -/
def read (s : String) : Except Fault Pattern := do
  let (ps, _) ← readAll s.length (s.length + 1) s.toList
  return sequence ps

end Pattern

end ReportMigration
