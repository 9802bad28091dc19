import MailboxControl.CommandLine.Usage

/-! Reading a command line. Words are first told apart, which finds every ambiguous prefix; options
then act from left to right; what is missing or left over is looked at last.

The rules are those of the option parser up to its release 3.11.8. Later releases differ in two corners:
here an unknown letter after short options that share a dash is an error at once, and two dashes
attached to an option as its value leave an empty list of words. -/

namespace MailboxControl.CommandLine

/-- A word of the command line by its role. -/
inductive Token where
  | option (switch : Switch) (spelling : String) (attached : Option String)
  | unknown (word : String)
  | word (word : String)
  | separator
deriving DecidableEq, Repr

/-- The parts before and after the first equals sign. -/
def splitEquals? (cs : List Char) : Option (String × String) :=
  if cs.contains '=' then
    let value := (cs.dropWhile (· != '=')).drop 1
    some (String.ofList (cs.takeWhile (· != '=')), String.ofList value)
  else none

/-- A long option may be shortened to any prefix of it. -/
def longCandidates (cs : List Char) : List Token :=
  let (stem, attached) :=
    match splitEquals? cs with
    | some (stem, value) => (stem.toList, some value)
    | none => (cs, none)
  (spellings.filter (fun entry => stem.isPrefixOf entry.1.toList)).map fun entry =>
    .option entry.2 entry.1 attached

/-- A short option may have more characters attached to it. -/
def shortCandidates (cs : List Char) : List Token :=
  (spellings.filter (fun entry => entry.1.toList == cs.take 2)).map fun entry =>
    .option entry.2 entry.1 (some (String.ofList (cs.drop 2)))

def candidates (cs : List Char) : List Token :=
  match cs with
  | '-' :: '-' :: _ => longCandidates cs
  | _ => shortCandidates cs

def isDigit (c : Char) : Bool := (Text.digitValue? c).isSome

/-- A minus sign and a number with at most one point, which has a digit after it. One line feed may
end the word. -/
def looksNegative (cs : List Char) : Bool :=
  let body := cs.drop 1
  let body := if body.getLast? == some '\n' then body.dropLast else body
  let fraction := (body.dropWhile isDigit).drop 1
  (!body.isEmpty && body.all isDigit) ||
    ((body.dropWhile isDigit).head? == some '.' && !fraction.isEmpty && fraction.all isDigit)

def Token.spelling? : Token → Option String
  | option _ spelling _ => some spelling
  | _ => none

/-- A word that starts with a dash. -/
def classifyDashed (word : String) : Except UsageError Token :=
  let cs := word.toList
  match candidates cs with
  | [] => .ok (if looksNegative cs || cs.contains ' ' then .word word else .unknown word)
  | [token] => .ok token
  | tokens => .error (.ambiguous word (tokens.filterMap Token.spelling?))

def classify (word : String) : Except UsageError Token :=
  if word.toList.head? != some '-' then .ok (.word word)
  else
    match lookup? word with
    | some switch => .ok (.option switch word none)
    | none =>
      if word == "-" then .ok (.word word)
      else
        match splitEquals? word.toList with
        | some (stem, value) =>
          match lookup? stem with
          | some switch => .ok (.option switch stem (some value))
          | none => classifyDashed word
        | none => classifyDashed word

/-- After two dashes every word stands for itself. -/
def tokenize : List String → Except UsageError (List Token)
  | [] => .ok []
  | word :: rest =>
    if word == "--" then .ok (.separator :: rest.map .word)
    else
      match classify word with
      | .error e => .error e
      | .ok token => (tokenize rest).map (token :: ·)

/-- What has been asked for so far. The words given to resuming are one, or none if that word was
two dashes. -/
structure Choices where
  operation : Option Operation := none
  operands : Option (List String) := none
  session : Bool := false
  verbose : Bool := false
  extras : List String := []
deriving DecidableEq, Repr

/-- Why reading ends before a command is known. -/
inductive Stop where
  | help
  | version
  | misuse (e : UsageError)

namespace Choices

/-- The same operation may be asked for again, another one may not. -/
def choose (c : Choices) (op : Operation) : Except Stop Choices :=
  match c.operation with
  | some earlier =>
    if earlier = op then .ok c
    else .error (.misuse (.conflict (.operation op) (.operation earlier)))
  | none => .ok { c with operation := some op }

def apply (c : Choices) : Switch → Except Stop Choices
  | .help => .error .help
  | .version => .error .version
  | .session => .ok { c with session := true }
  | .verbose => .ok { c with verbose := true }
  | .operation op => c.choose op

def applyAll (c : Choices) : List Switch → Except Stop Choices
  | [] => .ok c
  | s :: rest =>
    match c.apply s with
    | .error e => .error e
    | .ok c => c.applyAll rest

/-- Resuming takes a value. Two dashes count as given but are dropped. -/
def resume (c : Choices) (value : String) : Except Stop Choices :=
  (c.choose .resume).map ({ · with operands := some ([value].erase "--") })

def leave (c : Choices) (word : String) : Choices := { c with extras := c.extras ++ [word] }

end Choices

/-- Short options that share one dash. -/
def cluster (first : Switch) : List Char → Except UsageError (List Switch)
  | [] => .ok [first]
  | c :: cs =>
    match lookup? (String.ofList ['-', c]) with
    | some next => (cluster next cs).map (first :: ·)
    | none => .error (.ignoredValue first (String.ofList (c :: cs)))

/-- The options that one word stands for. Only short ones may have something attached. -/
def unfold (switch : Switch) (spelling : String) :
    Option String → Except UsageError (List Switch)
  | none => .ok [switch]
  | some value =>
    if spelling.toList.take 2 == ['-', '-'] || value == "" then .error (.ignoredValue switch value)
    else cluster switch value.toList

def Choices.run (c : Choices) : List Token → Except Stop Choices
  | [] => .ok c
  | .word w :: rest => (c.leave w).run rest
  | .unknown w :: rest => (c.leave w).run rest
  | .separator :: rest => (c.leave "--").run rest
  | .option (.operation .resume) _ (some value) :: rest =>
    match c.resume value with
    | .error e => .error e
    | .ok c => c.run rest
  | .option (.operation .resume) _ none :: .word value :: rest =>
    match c.resume value with
    | .error e => .error e
    | .ok c => c.run rest
  | .option (.operation .resume) _ none :: _ =>
    .error (.misuse (.needsValue (.operation .resume)))
  | .option switch spelling attached :: rest =>
    match unfold switch spelling attached with
    | .error e => .error (.misuse e)
    | .ok switches =>
      match c.applyAll switches with
      | .error e => .error e
      | .ok c => c.run rest

/-- A command line that asks for exactly one operation. -/
structure Invocation where
  operation : Operation
  operands : Option (List String)
  session : Bool
  verbose : Bool
deriving DecidableEq, Repr

/-- A missing operation is reported before words that are left over. -/
def Choices.finish (c : Choices) : Except Stop Invocation :=
  match c.operation with
  | none => .error (.misuse .noOperation)
  | some op =>
    if c.extras.isEmpty then .ok ⟨op, c.operands, c.session, c.verbose⟩
    else .error (.misuse (.unrecognized c.extras))

def parse (words : List String) : Except Stop Invocation :=
  match tokenize words with
  | .error e => .error (.misuse e)
  | .ok tokens =>
    match Choices.run {} tokens with
    | .error e => .error e
    | .ok c => c.finish

end MailboxControl.CommandLine
