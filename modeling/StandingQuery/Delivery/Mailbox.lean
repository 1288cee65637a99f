import StandingQuery.Domain.Host
import StandingQuery.Text.Blank
import StandingQuery.Text.Rest

/-!
# Mailboxes

A mail address with or without a name in front. The grammar is that of internet messages: an address of words with dots between
them on either side of the `@`, alone or in angle brackets after a phrase of words, dots and quoted strings. It takes any
characters beyond ASCII; what it takes is then checked against the limits for addresses.
-/

namespace StandingQuery

/-- A mail address, and the name of whom it reaches. -/
structure Mailbox where
  name : Option String
  user : String
  domain : String
  deriving DecidableEq, Repr

/-- Why a text is no mailbox. -/
inductive MailboxError where
  | input
  | user
  | domain
  deriving DecidableEq, Repr

/-- The message of an error. -/
def MailboxError.message : MailboxError → String
  | .input => "Invalid input"
  | .user => "Invalid email user"
  | .domain => "Invalid email domain"

namespace Mailbox

/-- The address of a mailbox. -/
def address (m : Mailbox) : String := m.user ++ "@" ++ m.domain

/-- The two blanks of a line. -/
def isLineBlank (c : Char) : Bool := c == ' ' || c == '\t'

/-- Whether a character may stand in a word of a mailbox: of ASCII the characters of atoms, and all beyond it. -/
def isWordChar (c : Char) : Bool := c.isAlphanum || Text.atomMarks.contains c || 0x80 ≤ c.toNat

/-- Whether a character may stand in a quoted string as it is. -/
def isQuotable (c : Char) : Bool :=
  let n := c.toNat
  c != '"' && c != '\\' && (0x21 ≤ n || (1 ≤ n && n ≤ 8) || n == 11 || n == 12 || (14 ≤ n && n ≤ 31))

/-- Whether a character may stand in a quoted string behind a backslash. -/
def isEscapable (c : Char) : Bool :=
  let n := c.toNat
  (1 ≤ n && n ≤ 9) || n == 11 || n == 12 || (14 ≤ n && n ≤ 127)

/-- Takes a quoted string whose opening quote has been taken: a run of blanks is one space, and blanks before the closing quote are
dropped. -/
def quotedTail (s : List Char) : Option (List Char × Text.Rest s) :=
  match s with
  | [] => none
  | c :: r =>
    if c = '"' then some ([], .tail r)
    else if c = '\\' then
      match r with
      | [] => none
      | d :: t => if isEscapable d then (quotedTail t).map fun q => (d :: q.1, q.2.push.push) else none
    else if isLineBlank c then
      let behind := (Text.AtMost.dropWhile isLineBlank r).push
      match h : behind.1 with
      | '"' :: _ => some ([], behind.atMost.tail h)
      | _ => (quotedTail behind.1).map fun q => (' ' :: q.1, behind.leavingRest q.2)
    else if isQuotable c then (quotedTail r).map fun q => (c :: q.1, q.2.push)
    else none
termination_by s.length
decreasing_by
  · exact Nat.lt_succ_of_lt (Nat.lt_succ_self _)
  · exact behind.2
  · exact Nat.lt_succ_self _

/-- Whether a phrase goes on with a text: with a word, a dot or a quoted string. -/
def goesOn : List Char → Bool
  | [] => false
  | c :: r => isWordChar c || c == '.' || (c == '"' && (quotedTail r).isSome)

/-- Takes as much of a phrase as there is: words, dots and quoted strings, with one space for a run of blanks between them. -/
def phraseTail (s : List Char) : List Char × List Char :=
  match s with
  | [] => ([], [])
  | c :: r =>
    if isWordChar c || c == '.' then
      let (more, rest) := phraseTail r
      (c :: more, rest)
    else if c = '"' then
      match quotedTail r with
      | none => ([], c :: r)
      | some (content, q) =>
        let (more, rest) := phraseTail q.1
        (content ++ more, rest)
    else if isLineBlank c then
      let behind : Text.Rest (c :: r) := (Text.AtMost.dropWhile isLineBlank r).push
      if goesOn behind.1 then
        let (more, rest) := phraseTail behind.1
        (' ' :: more, rest)
      else ([], c :: r)
    else ([], c :: r)
termination_by s.length
decreasing_by
  · exact Nat.lt_succ_self _
  · exact q.push.2
  · exact behind.2

/-- Takes a phrase, which does not begin with a dot. -/
def phrase (s : List Char) : Option (List Char × List Char) :=
  if s.head? = some '.' || !goesOn s then none else some (phraseTail s)

/-- Takes the later words of a run of words with dots between them. -/
def dottedTail (s : List Char) : List Char × List Char :=
  match s with
  | '.' :: c :: r =>
    if isWordChar c then
      let behind : Text.Rest ('.' :: c :: r) := (Text.AtMost.dropWhile isWordChar r).push.push
      let (more, rest) := dottedTail behind.1
      ('.' :: c :: r.takeWhile isWordChar ++ more, rest)
    else ([], '.' :: c :: r)
  | other => ([], other)
termination_by s.length
decreasing_by exact behind.2

/-- Takes words with dots between them. -/
def dotted (s : List Char) : Option (List Char × List Char) :=
  match s.takeWhile isWordChar with
  | [] => none
  | word =>
    let (more, rest) := dottedTail (s.dropWhile isWordChar)
    some (word ++ more, rest)

/-- Takes what stands before the `@`: words with dots between them, or a quoted string without its quotes. -/
def userPart (s : List Char) : Option (List Char × List Char) :=
  match s with
  | '"' :: r => (quotedTail r).map fun q => (q.1, q.2.1)
  | _ => dotted s

/-- Takes an address in its two parts, each of which may have blanks in front. -/
def addressPart (s : List Char) : Option ((List Char × List Char) × List Char) := do
  let (user, s) ← userPart (s.dropWhile isLineBlank)
  match s with
  | '@' :: t =>
    let (domain, rest) ← dotted (t.dropWhile isLineBlank)
    some ((user, domain), rest)
  | _ => none

/-- Takes an address in angle brackets, with blanks in front. -/
def bracketed (s : List Char) : Option ((List Char × List Char) × List Char) :=
  match s.dropWhile isLineBlank with
  | '<' :: t =>
    match addressPart t with
    | some (parts, '>' :: rest) => some (parts, rest)
    | _ => none
  | _ => none

/-- Takes a mailbox with a name, or with brackets only. -/
def named (s : List Char) : Option ((Option (List Char) × List Char × List Char) × List Char) :=
  match phrase s with
  | some (name, rest) => (bracketed rest).map fun r => ((some name, r.1), r.2)
  | none => (bracketed s).map fun r => ((none, r.1), r.2)

/-- The name and the two parts of the address that a whole text is, with blanks of any kind around it. -/
def split (s : List Char) : Option (Option (List Char) × List Char × List Char) :=
  let t := Text.trimStart s
  let found := match named t with
    | some found => some found
    | none => (addressPart t).map fun r => ((none, r.1), r.2)
  match found with
  | some (parts, rest) => if (Text.trimStart rest).isEmpty then some parts else none
  | none => none

/-- Whether a text can be printed between quotes: a backslash is followed by a graphic character of ASCII, and all others but
controls stand for themselves. -/
def isQuotedText : List Char → Bool
  | [] => true
  | '\\' :: c :: s => (0x21 ≤ c.toNat && c.toNat ≤ 0x7E) && isQuotedText s
  | c :: s => (isLineBlank c || (0x21 ≤ c.toNat && c.toNat != 0x7F && c != '"' && c != '\\')) && isQuotedText s

/-- Whether the part before the `@` keeps to the limits: it has at most 64 bytes, and is atoms with dots between them or stands in
quotes of its own. -/
def isUser (user : List Char) : Bool :=
  Text.byteCount user ≤ 64 &&
    if user.head? = some '"' && user.getLast? = some '"' then 2 < user.length && isQuotedText (user.drop 1).dropLast
    else (Text.pieces (· == '.') user).all fun atom => !atom.isEmpty && atom.all Text.isAtomChar

/-- The mailbox that a text names. -/
def parse (text : String) : Except MailboxError Mailbox :=
  match split text.toList with
  | none => .error .input
  | some (name, user, domain) =>
    if !isUser user then .error .user
    else if !Domain.namesHost domain then .error .domain
    else .ok ⟨name.map String.ofList, String.ofList user, String.ofList domain⟩

end Mailbox

end StandingQuery
