import DaemonLaunch.Bounds
import DaemonLaunch.Settings.Draft
import DaemonLaunch.Text.Hexadecimal

/-!
Settings documents as they are written: members with different keys in any order, among them members
that settings have no field for. The same document can be written as lines of TOML and as an object
of JSON.
-/

namespace DaemonLaunch.Settings

/-- How texts are quoted: the digits in use, and the characters that are written by their code.
These are the control characters at least, and such codes have two digits. -/
structure QuoteStyle where
  digit : Nat → Char
  byCode : Char → Bool
  hexDigit?_digit : ∀ n < 16, Text.hexDigit? (digit n) = some n
  byCode_of_control : ∀ c : Char, c.toNat < 0x20 ∨ c.toNat = 0x7f → byCode c = true
  lt_of_byCode : ∀ c : Char, byCode c = true → c.toNat < 0x100

namespace QuoteStyle

/-- Small letters for digits, and codes only where there must be some. -/
def plain : QuoteStyle where
  digit := Nat.digitChar
  byCode c := c.toNat < 0x20 || c.toNat == 0x7f
  hexDigit?_digit := by decide
  byCode_of_control c hc := by simpa using hc
  lt_of_byCode c hc := by
    have hsmall : c.toNat < 0x20 ∨ c.toNat = 0x7f := by simpa using hc
    omega

instance : Inhabited QuoteStyle := ⟨plain⟩

def quoteChar (style : QuoteStyle) (c : Char) : List Char :=
  if c = '"' ∨ c = '\\' then ['\\', c]
  else if style.byCode c then ['\\', 'u', '0', '0', style.digit (c.toNat / 16),
    style.digit (c.toNat % 16)]
  else [c]

theorem quoteChar_cases (style : QuoteStyle) (c : Char) :
    ((c = '"' ∨ c = '\\') ∧ style.quoteChar c = ['\\', c]) ∨
      (∃ a b high low, Text.hexDigit? a = some high ∧ Text.hexDigit? b = some low ∧
      16 * high + low = c.toNat ∧
        c.toNat < 0x100 ∧ style.quoteChar c = ['\\', 'u', '0', '0', a, b]) ∨
      (c ≠ '"' ∧ c ≠ '\\' ∧ ¬(c.toNat < 0x20 ∨ c.toNat = 0x7f) ∧ style.quoteChar c = [c]) := by
  by_cases hmark : c = '"' ∨ c = '\\'
  · exact .inl ⟨hmark, if_pos hmark⟩
  · obtain ⟨hquote, hbackslash⟩ := not_or.mp hmark
    by_cases hcode : style.byCode c = true
    · have hsmall := style.lt_of_byCode c hcode
      have hhigh := style.hexDigit?_digit (c.toNat / 16) (by omega)
      have hlow := style.hexDigit?_digit (c.toNat % 16) (by omega)
      exact .inr (.inl ⟨_, _, _, _, hhigh, hlow, Nat.div_add_mod ..,
        hsmall, by rw [quoteChar, if_neg hmark, if_pos hcode]⟩)
    · exact .inr (.inr ⟨hquote, hbackslash,
        fun hcontrol => hcode (style.byCode_of_control c hcontrol),
        by rw [quoteChar, if_neg hmark, if_neg hcode]⟩)

/-- A text between double quotes. -/
def quote (style : QuoteStyle) (text : String) : List Char :=
  '"' :: text.toList.flatMap style.quoteChar ++ ['"']

end QuoteStyle

/-- A value that both kinds of documents can hold. -/
inductive Scalar
  | integer (n : Int)
  | boolean (b : Bool)
  | text (s : String)
  deriving DecidableEq, Repr

namespace Scalar

def value : Scalar → Value
  | integer n => .integer n
  | boolean b => .boolean b
  | text s => .text s

/-- Integers have 64 bits. -/
def InRange : Scalar → Prop
  | integer n => Bounds.leastSigned64 ≤ n ∧ n ≤ Bounds.mostSigned64
  | _ => True

instance (scalar : Scalar) : Decidable scalar.InRange :=
  match scalar with
  | integer n => inferInstanceAs (Decidable (Bounds.leastSigned64 ≤ n ∧ n ≤ Bounds.mostSigned64))
  | boolean _ | text _ => isTrue trivial

def written (style : QuoteStyle) : Scalar → List Char
  | integer n => (Text.ofInt n).toList
  | boolean b => (if b then "true" else "false").toList
  | text s => style.quote s

theorem exists_written_cons (style : QuoteStyle) (scalar : Scalar) :
    ∃ c rest, scalar.written style = c :: rest ∧ c ≠ ' ' ∧ c ≠ '\t' ∧ c ≠ '\n' ∧ c ≠ '\r' := by
  cases scalar with
  | integer n =>
    obtain ⟨c, rest, hcons⟩ := List.exists_cons_of_ne_nil (Text.ofInt_ne_nil n)
    refine ⟨c, rest, hcons, ?_⟩
    obtain rfl | hc := Text.mem_ofInt (n := n) (c := c) (by simp [hcons])
    · decide
    · have hne : ∀ {d : Char}, d.isDigit = false → c ≠ d := Text.ne_of_isDigit hc
      exact ⟨hne (by decide), hne (by decide), hne (by decide), hne (by decide)⟩
  | boolean b =>
    cases b with
    | false => exact ⟨'f', "alse".toList, by rfl, by decide⟩
    | true => exact ⟨'t', "rue".toList, by rfl, by decide⟩
  | text s => exact ⟨'"', _, rfl, by decide⟩

end Scalar

/-- A field with its value, or a member that settings have no field for. -/
inductive Document.Member
  | sleepSeconds (n : Nat)
  | detachStreams (b : Bool)
  | enterRoot (b : Bool)
  | logFilter (filter : String)
  | logFile (path : String)
  | other (key : String) (scalar : Scalar)
  deriving DecidableEq, Repr

namespace Document.Member

def key : Member → String
  | sleepSeconds _ => Field.sleepSeconds.key
  | detachStreams _ => Field.detachStreams.key
  | enterRoot _ => Field.enterRoot.key
  | logFilter _ => Field.logFilter.key
  | logFile _ => Field.logFile.key
  | other key _ => key

def scalar : Member → Scalar
  | sleepSeconds n => .integer n
  | detachStreams b | enterRoot b => .boolean b
  | logFilter s | logFile s => .text s
  | other _ scalar => scalar

/-- A bare key is not empty and has letters, digits and underscores only. -/
def IsBare (key : String) : Prop :=
  key ≠ "" ∧ key.toList.all (fun c => c.isAlphanum || c == '_') = true

instance (key : String) : Decidable (IsBare key) := inferInstanceAs (Decidable (_ ∧ _))

/-- The key of another member is bare and does not belong to a field. -/
def HasOwnKey : Member → Prop
  | other key _ => IsBare key ∧ Field.ofKey? key = none
  | _ => True

instance (member : Member) : Decidable member.HasOwnKey :=
  match member with
  | other _ _ => inferInstanceAs (Decidable (_ ∧ _))
  | sleepSeconds _ | detachStreams _ | enterRoot _ | logFilter _ | logFile _ => isTrue trivial

def applyTo (d : Draft) : Member → Draft
  | sleepSeconds n => { d with sleepSeconds := some n }
  | detachStreams b => { d with detachStreams := some b }
  | enterRoot b => { d with enterRoot := some b }
  | logFilter s => { d with logFilter := some s }
  | logFile path => { d with logFile := some (some path) }
  | other _ _ => d

private theorem isBare_fieldKey (field : Field) : IsBare field.key := by
  cases field <;> decide

theorem isBare_key {member : Member} (h : member.HasOwnKey) : IsBare member.key := by
  cases member with
  | sleepSeconds n => exact isBare_fieldKey .sleepSeconds
  | detachStreams b => exact isBare_fieldKey .detachStreams
  | enterRoot b => exact isBare_fieldKey .enterRoot
  | logFilter s => exact isBare_fieldKey .logFilter
  | logFile path => exact isBare_fieldKey .logFile
  | other key scalar => exact h.1

/-- What becomes of a draft when the value of a member is taken for the field of its key, if there
is one. -/
theorem assign_eq_ok {member : Member} (h : member.HasOwnKey) (d : Draft) :
    (∃ field, Field.ofKey? member.key = some field ∧
      d.assign field member.scalar.value = .ok (member.applyTo d)) ∨
      Field.ofKey? member.key = none ∧ member.applyTo d = d := by
  cases member with
  | sleepSeconds n =>
    exact .inl ⟨.sleepSeconds, Field.ofKey?_key .sleepSeconds, by simp [scalar, Scalar.value,
      Draft.assign, applyTo]⟩
  | detachStreams b => exact .inl ⟨.detachStreams, Field.ofKey?_key .detachStreams, rfl⟩
  | enterRoot b => exact .inl ⟨.enterRoot, Field.ofKey?_key .enterRoot, rfl⟩
  | logFilter s => exact .inl ⟨.logFilter, Field.ofKey?_key .logFilter, rfl⟩
  | logFile path => exact .inl ⟨.logFile, Field.ofKey?_key .logFile, rfl⟩
  | other key scalar => exact .inr ⟨h.2, rfl⟩

theorem key_of_has_applyTo {member : Member} {d : Draft} {field : Field}
    (h : (member.applyTo d).has field = true) :
    d.has field = true ∨ field.key = member.key := by
  cases member <;> cases field <;> simp_all [applyTo, Draft.has, key]

/-- The line of a TOML document. -/
def toml (style : QuoteStyle) (member : Member) : List Char :=
  member.key.toList ++ " = ".toList ++ member.scalar.written style ++ ['\n']

end Document.Member

/-- Members with different keys. -/
structure Document where
  members : List Document.Member
  nodup_keys : (members.map Document.Member.key).Nodup
  hasOwnKey : ∀ member ∈ members, member.HasOwnKey
  inRange : ∀ member ∈ members, member.scalar.InRange

/-- Blank characters between the parts of a JSON document. -/
structure Blanks where
  text : List Char
  blank : ∀ c ∈ text, c = ' ' ∨ c = '\n' ∨ c = '\t' ∨ c = '\r'

instance : Inhabited Blanks := ⟨[], by simp⟩

/-- The blanks at every place where a JSON document may have some. -/
structure Layout where
  outside : Blanks
  afterOpening : Blanks
  beforeColon : Blanks
  afterColon : Blanks
  beforeComma : Blanks
  afterComma : Blanks
  beforeClosing : Blanks
  deriving Inhabited

namespace Document

/-- One line a member. -/
def toml (style : QuoteStyle) (d : Document) : List Char := d.members.flatMap (Member.toml style)

section Json

variable (style : QuoteStyle) (layout : Layout)

def jsonMember (member : Member) : List Char :=
  style.quote member.key ++ layout.beforeColon.text ++ ':' :: layout.afterColon.text ++
    member.scalar.written style

/-- The members after the first one, and the end of the object. -/
def jsonRest : List Member → List Char
  | [] => layout.beforeClosing.text ++ '}' :: layout.outside.text
  | member :: members =>
    layout.beforeComma.text ++ ',' :: layout.afterComma.text ++ jsonMember style layout member ++
      jsonRest members

/-- What follows the opening brace and its blanks. -/
def jsonMembers : List Member → List Char
  | [] => '}' :: layout.outside.text
  | member :: members => jsonMember style layout member ++ jsonRest style layout members

/-- One object. -/
def json (d : Document) : List Char :=
  layout.outside.text ++ '{' :: (layout.afterOpening.text ++ jsonMembers style layout d.members)

end Json

private def noted : Document where
  members := [.other "note" (.text "a\"b\n"), .sleepSeconds 5]
  nodup_keys := by decide
  hasOwnKey := by decide
  inRange := by decide

example : noted.toml .plain = "note = \"a\\\"b\\u000a\"\nsleep_secs = 5\n".toList := by rfl

example : noted.json .plain default =
    '{' :: "\"note\":\"a\\\"b\\u000a\",\"sleep_secs\":5".toList ++ ['}'] := by rfl

/-- What the members give for the fields. -/
def draft (d : Document) : Draft := d.members.foldl Member.applyTo {}

end Document

end DaemonLaunch.Settings
