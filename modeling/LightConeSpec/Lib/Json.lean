import Mathlib.Data.List.Lex
import LightConeSpec.Lib.Python

/-!
# JSON texts

`json.loads` and `json.dumps` of Python. A text is a list of code points, surrogates among them.

The decoder is called with hooks that refuse duplicate keys and the constants `NaN`, `Infinity`
and `-Infinity`. It is a machine that reads one code point at a time; the stack of its state are
the containers that are open. It may open `limit` of them within each other, and raises a
`RecursionError` at the bracket of the next one. The encoder has sorted keys, no blanks and ASCII
only, and a limit of its own.

Floating-point numbers keep their text. What `float.__repr__` prints for one is a parameter.
-/

open Python

/-- A text: its code points. -/
abbrev Text := List ℕ

/-- The code points of a string. -/
def textOf (s : String) : Text := s.toList.map Char.toNat

/-- What a text decodes to. -/
inductive Json
  | null
  | bool (value : Bool)
  | int (value : ℤ)
  | float (text : Text)
  | str (value : Text)
  | arr (items : List Json)
  | obj (items : List (Text × Json))

namespace Json

/-- `RecursionError`, a `RuntimeError`. -/
def recursionError : Error := ⟨.runtimeError, "maximum recursion depth exceeded"⟩

/-- `JSONDecodeError`, a `ValueError`. -/
def jsonDecodeError : Error := valueError "JSONDecodeError"

/-! ## Code points -/

def isSpace (c : ℕ) : Bool := c == 0x20 || c == 0x09 || c == 0x0A || c == 0x0D

def isDigit (c : ℕ) : Bool := '0'.toNat ≤ c && c ≤ '9'.toNat

def isHighSurrogate (c : ℕ) : Bool := 0xD800 ≤ c && c ≤ 0xDBFF

def isLowSurrogate (c : ℕ) : Bool := 0xDC00 ≤ c && c ≤ 0xDFFF

def joinSurrogates (high low : ℕ) : ℕ := 0x10000 + (high - 0xD800) * 0x400 + (low - 0xDC00)

/-- The value of a hexadecimal digit. -/
def hexValue (c : ℕ) : Option ℕ :=
  if isDigit c then some (c - '0'.toNat)
  else if 'a'.toNat ≤ c ∧ c ≤ 'f'.toNat then some (c - 'a'.toNat + 10)
  else if 'A'.toNat ≤ c ∧ c ≤ 'F'.toNat then some (c - 'A'.toNat + 10)
  else none

/-- What a backslash and the code point stand for, `\u` apart. -/
def unescape (c : ℕ) : Option ℕ :=
  if c = '"'.toNat ∨ c = '\\'.toNat ∨ c = '/'.toNat then some c
  else if c = 'b'.toNat then some 0x08
  else if c = 'f'.toNat then some 0x0C
  else if c = 'n'.toNat then some 0x0A
  else if c = 'r'.toNat then some 0x0D
  else if c = 't'.toNat then some 0x09
  else none

/-! ## Numbers -/

/-- The part of a number that was read last. -/
inductive NumberPart
  | minus
  | zero
  | int
  | point
  | fraction
  | exponent
  | exponentSign
  | exponentDigits
deriving DecidableEq

/-- `e` or `E` begins an exponent. -/
def exponentMark (c : ℕ) : Option NumberPart :=
  if c = 'e'.toNat ∨ c = 'E'.toNat then some .exponent else none

/-- What may follow an integer in a number. -/
def pointOrExponent (c : ℕ) : Option NumberPart :=
  if c = '.'.toNat then some .point else exponentMark c

/-- The part that a code point belongs to, if the number goes on with it. -/
def NumberPart.next (part : NumberPart) (c : ℕ) : Option NumberPart :=
  match part with
  | .minus => if c = '0'.toNat then some .zero else if isDigit c then some .int else none
  | .zero => pointOrExponent c
  | .int => if isDigit c then some .int else pointOrExponent c
  | .point => if isDigit c then some .fraction else none
  | .fraction => if isDigit c then some .fraction else exponentMark c
  | .exponent =>
    if c = '+'.toNat ∨ c = '-'.toNat then some .exponentSign
    else if isDigit c then some .exponentDigits
    else none
  | .exponentSign | .exponentDigits => if isDigit c then some .exponentDigits else none

/-- The number that decimal digits stand for. -/
def decimalValue (digits : Text) : ℕ :=
  digits.foldl (fun n c => 10 * n + (c - '0'.toNat)) 0

/-- `int(text)`, which is limited to 4300 digits. -/
def intOfText (text : Text) : Except Error Json :=
  let digits := text.dropWhile (· == '-'.toNat)
  if digits.length ≤ 4300 then
    .ok (.int (if text.head? = some '-'.toNat then -decimalValue digits else decimalValue digits))
  else .error (valueError "Exceeds the limit (4300 digits) for integer string conversion")

/-- The value of a number that ends at its part. -/
def finishNumber (part : NumberPart) (text : Text) : Except Error Json :=
  match part with
  | .zero | .int => intOfText text
  | .fraction | .exponentDigits => .ok (.float text)
  | .minus | .point | .exponent | .exponentSign => .error jsonDecodeError

/-! ## Decoding -/

/-- A container that is open, with what it has so far, backwards. An object has the key whose value
follows, or none when a key follows. -/
inductive Frame
  | array (before : List Json)
  | object (before : List (Text × Json)) (key : Option Text)

/-- What the decoder is about to read. Code points that it is in the middle of are kept
backwards; `high` says that the last one is a high surrogate that was escaped. -/
inductive Mode
  | value
  | firstItem
  | firstKey
  | key
  | colon
  | after (v : Json)
  | string (chars : Text) (high : Bool)
  | escape (chars : Text) (high : Bool)
  | hex (chars : Text) (high : Bool) (digits code : ℕ)
  | number (part : NumberPart) (text : Text)
  | literal (rest : Text) (v : Json)

structure State where
  stack : List Frame
  mode : Mode

/-- A container is opened. -/
def enter (limit : ℕ) (stack : List Frame) (frame : Frame) (mode : Mode) : Except Error State :=
  if stack.length < limit then .ok ⟨frame :: stack, mode⟩ else .error recursionError

/-- The first code point of a value. -/
def startValue (limit : ℕ) (stack : List Frame) (c : ℕ) : Except Error State :=
  if c = '"'.toNat then .ok ⟨stack, .string [] false⟩
  else if c = '['.toNat then enter limit stack (.array []) .firstItem
  else if c = '\x7b'.toNat then enter limit stack (.object [] none) .firstKey
  else if c = '-'.toNat then .ok ⟨stack, .number .minus [c]⟩
  else if c = '0'.toNat then .ok ⟨stack, .number .zero [c]⟩
  else if isDigit c then .ok ⟨stack, .number .int [c]⟩
  else if c = 'n'.toNat then .ok ⟨stack, .literal (textOf "ull") .null⟩
  else if c = 't'.toNat then .ok ⟨stack, .literal (textOf "rue") (.bool true)⟩
  else if c = 'f'.toNat then .ok ⟨stack, .literal (textOf "alse") (.bool false)⟩
  else .error jsonDecodeError

/-- `object_pairs_hook` refuses a key that occurs twice. -/
def closeObject (stack : List Frame) (items : List (Text × Json)) : Except Error State :=
  if (items.map Prod.fst).Nodup then .ok ⟨stack, .after (.obj items)⟩
  else .error (valueError "remote response contains duplicate key")

def afterValue (stack : List Frame) (v : Json) (c : ℕ) : Except Error State :=
  if isSpace c then .ok ⟨stack, .after v⟩
  else
    match stack with
    | .array before :: rest =>
      if c = ','.toNat then .ok ⟨.array (v :: before) :: rest, .value⟩
      else if c = ']'.toNat then .ok ⟨rest, .after (.arr (v :: before).reverse)⟩
      else .error jsonDecodeError
    | .object before (some key) :: rest =>
      if c = ','.toNat then .ok ⟨.object ((key, v) :: before) none :: rest, .key⟩
      else if c = '\x7d'.toNat then closeObject rest ((key, v) :: before).reverse
      else .error jsonDecodeError
    | _ => .error jsonDecodeError

/-- The end of a string, which is a key or a value. -/
def closeString (stack : List Frame) (chars : Text) : State :=
  match stack with
  | .object before none :: rest => ⟨.object before (some chars) :: rest, .colon⟩
  | _ => ⟨stack, .after (.str chars)⟩

/-- The unit of an escape `\u`: two surrogates that follow each other are one code point. -/
def pushUnit (chars : Text) (high : Bool) (unit : ℕ) : Mode :=
  match high, chars with
  | true, first :: before =>
    if isLowSurrogate unit then .string (joinSurrogates first unit :: before) false
    else .string (unit :: chars) (isHighSurrogate unit)
  | _, _ => .string (unit :: chars) (isHighSurrogate unit)

/-- The decoder reads a code point. -/
def step (limit : ℕ) : State → ℕ → Except Error State
  | ⟨stack, .value⟩, c =>
    if isSpace c then .ok ⟨stack, .value⟩ else startValue limit stack c
  | ⟨stack, .firstItem⟩, c =>
    if isSpace c then .ok ⟨stack, .firstItem⟩
    else if c = ']'.toNat then .ok ⟨stack.tail, .after (.arr [])⟩
    else startValue limit stack c
  | ⟨stack, .firstKey⟩, c =>
    if isSpace c then .ok ⟨stack, .firstKey⟩
    else if c = '\x7d'.toNat then .ok ⟨stack.tail, .after (.obj [])⟩
    else if c = '"'.toNat then .ok ⟨stack, .string [] false⟩
    else .error jsonDecodeError
  | ⟨stack, .key⟩, c =>
    if isSpace c then .ok ⟨stack, .key⟩
    else if c = '"'.toNat then .ok ⟨stack, .string [] false⟩
    else .error jsonDecodeError
  | ⟨stack, .colon⟩, c =>
    if isSpace c then .ok ⟨stack, .colon⟩
    else if c = ':'.toNat then .ok ⟨stack, .value⟩
    else .error jsonDecodeError
  | ⟨stack, .after v⟩, c => afterValue stack v c
  | ⟨stack, .string chars high⟩, c =>
    if c = '"'.toNat then .ok (closeString stack chars.reverse)
    else if c = '\\'.toNat then .ok ⟨stack, .escape chars high⟩
    else if c < 0x20 then .error jsonDecodeError
    else .ok ⟨stack, .string (c :: chars) false⟩
  | ⟨stack, .escape chars high⟩, c =>
    if c = 'u'.toNat then .ok ⟨stack, .hex chars high 0 0⟩
    else
      match unescape c with
      | some plain => .ok ⟨stack, .string (plain :: chars) false⟩
      | none => .error jsonDecodeError
  | ⟨stack, .hex chars high digits code⟩, c =>
    match hexValue c with
    | none => .error jsonDecodeError
    | some digit =>
      if digits < 3 then .ok ⟨stack, .hex chars high (digits + 1) (16 * code + digit)⟩
      else .ok ⟨stack, pushUnit chars high (16 * code + digit)⟩
  | ⟨stack, .number part text⟩, c =>
    match part.next c with
    | some part => .ok ⟨stack, .number part (c :: text)⟩
    | none => do
      let v ← finishNumber part text.reverse
      afterValue stack v c
  | ⟨stack, .literal rest v⟩, c =>
    match rest with
    | [] => .error jsonDecodeError
    | expected :: rest =>
      if c ≠ expected then .error jsonDecodeError
      else if rest = [] then .ok ⟨stack, .after v⟩
      else .ok ⟨stack, .literal rest v⟩

/-- The decoder reads a text. -/
def run (limit : ℕ) : State → Text → Except Error State
  | state, [] => .ok state
  | state, c :: rest => do
    let state ← step limit state c
    run limit state rest

/-- The end of the text. -/
def finish : State → Except Error Json
  | ⟨[], .after v⟩ => .ok v
  | ⟨[], .number part text⟩ => finishNumber part text.reverse
  | _ => .error jsonDecodeError

/-- `json.loads(text, object_pairs_hook=reject_duplicate, parse_constant=reject_constant)`. -/
def loads (limit : ℕ) (text : Text) : Except Error Json := do
  let state ← run limit ⟨[], .value⟩ text
  finish state

/-! ## Encoding -/

def hexDigit (n : ℕ) : ℕ := if n < 10 then '0'.toNat + n else 'a'.toNat + (n - 10)

/-- `\u` and four digits. -/
def escapeUnit (n : ℕ) : Text :=
  ['\\'.toNat, 'u'.toNat, hexDigit (n / 0x1000 % 16), hexDigit (n / 0x100 % 16),
    hexDigit (n / 0x10 % 16), hexDigit (n % 16)]

/-- A code point in a string. -/
def escape (c : ℕ) : Text :=
  if c = '"'.toNat ∨ c = '\\'.toNat then ['\\'.toNat, c]
  else if c = 0x0A then textOf "\\n"
  else if c = 0x0D then textOf "\\r"
  else if c = 0x09 then textOf "\\t"
  else if c = 0x0C then textOf "\\f"
  else if c = 0x08 then textOf "\\b"
  else if 0x20 ≤ c ∧ c ≤ 0x7E then [c]
  else if c < 0x10000 then escapeUnit c
  else escapeUnit (0xD800 + (c - 0x10000) / 0x400) ++ escapeUnit (0xDC00 + (c - 0x10000) % 0x400)

def encodeString (s : Text) : Text := '"'.toNat :: (s.flatMap escape ++ ['"'.toNat])

/-- The decimal digits of a number. -/
def natText (n : ℕ) : Text := (Nat.toDigits 10 n).map Char.toNat

/-- `int.__repr__`. -/
def intText : ℤ → Text
  | .ofNat n => natText n
  | .negSucc n => '-'.toNat :: natText (n + 1)

def fieldText (field : Text × Text) : Text := encodeString field.1 ++ ':'.toNat :: field.2

section

variable (floatRepr : Text → Option Text)

mutual

/-- `json.dumps(value, sort_keys=True, separators=(",", ":"), ensure_ascii=True)`. -/
def encode : Json → Text
  | .null => textOf "null"
  | .bool true => textOf "true"
  | .bool false => textOf "false"
  | .int n => intText n
  | .float text => (floatRepr text).getD []
  | .str s => encodeString s
  | .arr items => '['.toNat :: ([','.toNat].intercalate (encodeItems items) ++ [']'.toNat])
  | .obj items =>
    '\x7b'.toNat :: ([','.toNat].intercalate
      ((sortedBy Prod.fst (encodeFields items)).map fieldText) ++ ['\x7d'.toNat])

def encodeItems : List Json → List Text
  | [] => []
  | v :: rest => encode v :: encodeItems rest

def encodeFields : List (Text × Json) → List (Text × Text)
  | [] => []
  | (key, v) :: rest => (key, encode v) :: encodeFields rest

end

mutual

/-- What encoding raises: the encoder may enter `limit` containers within each other, and
`allow_nan=False` refuses a number that has no finite value. -/
def check : Json → ℕ → Except Error Unit
  | .float text, _ =>
    require (floatRepr text).isSome
      (valueError "Out of range float values are not JSON compliant")
  | .arr _, 0 | .obj _, 0 => .error recursionError
  | .arr items, limit + 1 => forEach id (checkItems items limit)
  | .obj items, limit + 1 => forEach Prod.snd (sortedBy Prod.fst (checkFields items limit))
  | _, _ => .ok ()

def checkItems : List Json → ℕ → List (Except Error Unit)
  | [], _ => []
  | v :: rest, limit => check v limit :: checkItems rest limit

def checkFields : List (Text × Json) → ℕ → List (Text × Except Error Unit)
  | [], _ => []
  | (key, v) :: rest, limit => (key, check v limit) :: checkFields rest limit

end

/-- `json.dumps` with sorted keys, ASCII only and finite numbers only. -/
def dumps (limit : ℕ) (v : Json) : Except Error Text := do
  check floatRepr v limit
  pure (encode floatRepr v)

end

end Json
