import MailboxControl.Fault
import MailboxControl.Text.LetterCase

/-! Addresses: of a bus, and on a bus by object path, bus name and interface name. What the bus library
makes of the latter is no part of the client, which only hands them over, and so a library is a
parameter. The one given here has the forms that are checked when the client runs. -/

namespace MailboxControl

/-- Which bus it is, as text or as bytes. Only ASCII letters have a case among bytes. -/
inductive BusAddress where
  | text (s : String)
  | bytes (bs : Bytes)
deriving DecidableEq, Repr

namespace BusAddress

def byteUpper (b : UInt8) : UInt8 := if 97 ≤ b ∧ b ≤ 122 then b - 32 else b

def byteLower (b : UInt8) : UInt8 := if 65 ≤ b ∧ b ≤ 90 then b + 32 else b

def upper : BusAddress → BusAddress
  | text s => text (Text.upperCase s)
  | bytes bs => bytes (bs.map byteUpper)

def lower : BusAddress → BusAddress
  | text s => text (Text.lowerCase s)
  | bytes bs => bytes (bs.map byteLower)

def toValue : BusAddress → Value
  | text s => .text s
  | bytes bs => .bytes bs

/-- The form in messages, in small letters. -/
def shown (bus : BusAddress) : String := bus.lower.toValue.plain

end BusAddress

/-- The parts of an address, which are what was given for them. -/
structure Address.Parts (path name interface : Value) where
  objectPath : String
  busName : Option String
  interfaceName : Option String
  path_eq : path = .text objectPath
  name_eq : name = busName.elim .null .text
  interface_eq : interface = interfaceName.elim .null .text

/-- What a bus library decides about addresses. -/
structure BusLibrary where
  /-- the parts of an address, or why it is refused -/
  address : (path name interface : Value) → Except Fault (Address.Parts path name interface)
  /-- why a call to an address without a bus name is refused -/
  unnamed : Fault

namespace Address

/-- A letter, a digit or an underscore. -/
def isWordChar (c : Char) : Bool := c.isAlphanum || c == '_'

/-- What is wrong with an object path. -/
inductive PathFlaw where
  | relative
  | trailingSlash
  | doubleSlash
  | badCharacter
deriving DecidableEq, Repr

def hasDoubleSlash : List Char → Bool
  | '/' :: '/' :: _ => true
  | _ :: rest => hasDoubleSlash rest
  | [] => false

/-- The first flaw of a path. The root alone ends with a slash. -/
def pathFlaw? (path : List Char) : Option PathFlaw :=
  if path.head? ≠ some '/' then some .relative
  else if 1 < path.length ∧ path.getLast? = some '/' then some .trailingSlash
  else if hasDoubleSlash path then some .doubleSlash
  else if path.all (fun c => isWordChar c || c == '/') then none
  else some .badCharacter

/-- What a dotted name stands for. -/
inductive NameKind where
  | bus
  | interface
deriving DecidableEq, Repr

/-- What is wrong with a dotted name. -/
inductive NameFlaw where
  | tooLong
  | malformed
deriving DecidableEq, Repr

/-- The pieces between the dots. -/
def elements : List Char → List (List Char)
  | [] => [[]]
  | c :: rest =>
    if c = '.' then [] :: elements rest
    else
      match elements rest with
      | [] => [[c]]
      | e :: es => (c :: e) :: es

/-- Bus names may have hyphens. -/
def NameKind.isNameChar (kind : NameKind) (c : Char) : Bool :=
  isWordChar c || (kind == .bus && c == '-')

/-- An element has characters, and a digit only after the first one. -/
def isElement (kind : NameKind) (element : List Char) : Bool :=
  element.all kind.isNameChar && element.head?.any (!·.isDigit)

/-- In a name that a bus gives out, an element may start with a digit. -/
def isAssignedElement (element : List Char) : Bool :=
  element.all NameKind.bus.isNameChar && !element.isEmpty

/-- A name has two elements or more. One that a bus gives out starts with a colon and has exactly
two. -/
def isName : NameKind → List Char → Bool
  | .bus, ':' :: name => (elements name).length == 2 && (elements name).all isAssignedElement
  | kind, name => 2 ≤ (elements name).length && (elements name).all (isElement kind)

/-- One line end after a name does no harm. -/
def dropLineEnd (name : List Char) : List Char :=
  if name.getLast? = some '\n' then name.dropLast else name

/-- The most characters of a name. -/
def maxName : Nat := 255

def nameFlaw? (kind : NameKind) (name : List Char) : Option NameFlaw :=
  if maxName < name.length then some .tooLong
  else if isName kind (dropLineEnd name) then none
  else some .malformed

def pathFlawText : PathFlaw → String
  | .relative => "must start with /"
  | .trailingSlash => "cannot end with /"
  | .doubleSlash => "cannot contain double /"
  | .badCharacter => "can only contain A-Z, a-z, 0-9, / and _"

def nameKindText : NameKind → String
  | .bus => "Bus name"
  | .interface => "Interface name"

/-- A name that is too long is shown by its start. -/
def nameFlawText (name : String) : NameFlaw → String
  | .tooLong =>
    "(" ++ Text.quoteText (String.ofList (name.toList.take 8) ++ "...") ++ ") is too long (> " ++
      toString maxName ++ " characters)"
  | .malformed => "(" ++ Text.quoteText name ++ ") is not valid"

/-- Letters and digits are those of ASCII. -/
def checkPath : (v : Value) → Except Fault { path : String // v = .text path }
  | .text path =>
    match pathFlaw? path.toList with
    | none => .ok ⟨path, rfl⟩
    | some flaw =>
      .error (.refused .value
        ("Object path (" ++ Text.quoteText path ++ ") " ++ pathFlawText flaw))
  | .bytes _ =>
    .error (.refused .type "startswith first arg must be bytes or a tuple of bytes, not str")
  | v => .error (.noFeature v.kind "startswith")

/-- A name may be left out. -/
def checkName (kind : NameKind) :
    (v : Value) → Except Fault { name : Option String // v = name.elim .null .text }
  | .null => .ok ⟨none, rfl⟩
  | .text name =>
    match nameFlaw? kind name.toList with
    | none => .ok ⟨some name, rfl⟩
    | some flaw => .error (.refused .value (nameKindText kind ++ " " ++ nameFlawText name flaw))
  | .bytes _ => .error (.refused .type "cannot use a string pattern on a bytes-like object")
  | .list items =>
    .error (.refused .type
      ("expected string or bytes-like object, got '" ++ (Value.list items).kind ++ "'"))
  | v => .error (.noLength v.kind)

/-- The first flaw counts. -/
def check (path name interface : Value) : Except Fault (Parts path name interface) :=
  match checkPath path with
  | .error f => .error f
  | .ok ⟨objectPath, hpath⟩ =>
    match checkName .bus name with
    | .error f => .error f
    | .ok ⟨busName, hname⟩ =>
      match checkName .interface interface with
      | .error f => .error f
      | .ok ⟨interfaceName, hinterface⟩ =>
        .ok ⟨objectPath, busName, interfaceName, hpath, hname, hinterface⟩

end Address

/-- The library by whose rules the client runs. The forms and the texts are those that it was seen to use;
no theorem reads them. -/
def BusLibrary.standard : BusLibrary where
  address := Address.check
  unnamed := .refused .value "remote_obj.bus_name cannot be None for method calls"

end MailboxControl
