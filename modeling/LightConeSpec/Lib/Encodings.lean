import LightConeSpec.Lib.Json

/-!
# From bytes to a text

How `json.loads` decodes bytes: the encoding is guessed from the first four of them, and the bytes
are decoded with the `surrogatepass` error handler, which lets a lone surrogate pass as a code
point.

Bytes are numbers below 256 here. Printable ASCII is its own text.
-/

open Python

/-! ## Guessing the encoding -/

inductive Encoding
  | utf8
  | utf8Sig
  | utf16
  | utf16Be
  | utf16Le
  | utf32
  | utf32Be
  | utf32Le
deriving DecidableEq

def detectEncoding (bytes : List ℕ) : Encoding :=
  if [0x00, 0x00, 0xFE, 0xFF].isPrefixOf bytes || [0xFF, 0xFE, 0x00, 0x00].isPrefixOf bytes then
    .utf32
  else if [0xFE, 0xFF].isPrefixOf bytes || [0xFF, 0xFE].isPrefixOf bytes then .utf16
  else if [0xEF, 0xBB, 0xBF].isPrefixOf bytes then .utf8Sig
  else
    match bytes with
    | a :: b :: c :: d :: _ =>
      if a = 0 then if b ≠ 0 then .utf16Be else .utf32Be
      else if b = 0 then if c ≠ 0 ∨ d ≠ 0 then .utf16Le else .utf32Le
      else .utf8
    | [a, b] => if a = 0 then .utf16Be else if b = 0 then .utf16Le else .utf8
    | _ => .utf8

/-! ## Decoding -/

def isContinuation (b : ℕ) : Bool := 0x80 ≤ b && b ≤ 0xBF

/-- UTF-8. No sequence is longer than needed, and surrogates pass. -/
def decodeUtf8 : List ℕ → Option Text
  | [] => some []
  | a :: rest =>
    if a < 0x80 then (decodeUtf8 rest).map (List.cons a)
    else
      match rest with
      | [] => none
      | b :: rest =>
        if isContinuation b = false then none
        else if 0xC2 ≤ a ∧ a ≤ 0xDF then
          (decodeUtf8 rest).map (List.cons ((a - 0xC0) * 0x40 + (b - 0x80)))
        else
          match rest with
          | [] => none
          | c :: rest =>
            if isContinuation c = false then none
            else if 0xE0 ≤ a ∧ a ≤ 0xEF then
              let n := (a - 0xE0) * 0x1000 + (b - 0x80) * 0x40 + (c - 0x80)
              if 0x800 ≤ n then (decodeUtf8 rest).map (List.cons n) else none
            else
              match rest with
              | [] => none
              | d :: rest =>
                let n := (a - 0xF0) * 0x40000 + (b - 0x80) * 0x1000 + (c - 0x80) * 0x40 + (d - 0x80)
                if isContinuation d = true ∧ 0xF0 ≤ a ∧ 0x10000 ≤ n ∧ n ≤ 0x10FFFF then
                  (decodeUtf8 rest).map (List.cons n)
                else none

/-- The units of two bytes. -/
def units16 (bigEndian : Bool) : List ℕ → Option (List ℕ)
  | [] => some []
  | [_] => none
  | a :: b :: rest =>
    let unit := if bigEndian then a * 0x100 + b else b * 0x100 + a
    (units16 bigEndian rest).map (List.cons unit)

/-- UTF-16 units: a pair of surrogates is one code point. -/
def joinUnits : List ℕ → Text
  | [] => []
  | [unit] => [unit]
  | first :: second :: rest =>
    if Json.isHighSurrogate first && Json.isLowSurrogate second then
      Json.joinSurrogates first second :: joinUnits rest
    else first :: joinUnits (second :: rest)

def decodeUtf16 (bigEndian : Bool) (bytes : List ℕ) : Option Text :=
  (units16 bigEndian bytes).map joinUnits

def decodeUtf32 (bigEndian : Bool) : List ℕ → Option Text
  | [] => some []
  | a :: b :: c :: d :: rest =>
    let n := if bigEndian then a * 0x1000000 + b * 0x10000 + c * 0x100 + d
      else d * 0x1000000 + c * 0x10000 + b * 0x100 + a
    if n ≤ 0x10FFFF then (decodeUtf32 bigEndian rest).map (List.cons n) else none
  | _ => none

/-- `bytes.decode(encoding, "surrogatepass")`. The byte order mark of the encodings without an
order is not part of the text. -/
def decodeWith (encoding : Encoding) (bytes : List ℕ) : Option Text :=
  match encoding with
  | .utf8 => decodeUtf8 bytes
  | .utf8Sig => decodeUtf8 (bytes.drop 3)
  | .utf16 => decodeUtf16 (bytes.head? == some 0xFE) (bytes.drop 2)
  | .utf16Be => decodeUtf16 true bytes
  | .utf16Le => decodeUtf16 false bytes
  | .utf32 => decodeUtf32 (bytes.head? == some 0x00) (bytes.drop 4)
  | .utf32Be => decodeUtf32 true bytes
  | .utf32Le => decodeUtf32 false bytes

/-- The text that `json.loads` reads. `UnicodeDecodeError` is a `ValueError`. -/
def decodeText (bytes : List UInt8) : Except Error Text :=
  match decodeWith (detectEncoding (bytes.map UInt8.toNat)) (bytes.map UInt8.toNat) with
  | some text => .ok text
  | none => .error (valueError "UnicodeDecodeError")

/-- `text.encode("utf-8")` of ASCII. -/
def asciiBytes (text : Text) : List UInt8 := text.map UInt8.ofNat

/-! ## ASCII -/

/-- The code points from the blank on. -/
def IsPrintable (text : Text) : Prop := ∀ c ∈ text, 0x20 ≤ c ∧ c ≤ 0x7E

theorem toNat_asciiBytes {text : Text} (h : IsPrintable text) :
    (asciiBytes text).map UInt8.toNat = text := by
  unfold asciiBytes
  rw [List.map_map]
  conv_rhs => rw [← List.map_id text]
  refine List.map_congr_left fun c hc => ?_
  have hsmall := (h c hc).2
  show (UInt8.ofNat c).toNat = c
  rw [UInt8.toNat_ofNat']
  omega

theorem decodeUtf8_ascii {text : Text} (h : IsPrintable text) : decodeUtf8 text = some text := by
  induction text with
  | nil => rfl
  | cons c rest ih =>
    have hc := (h c List.mem_cons_self).2
    have hsmall : c < 0x80 := by omega
    unfold decodeUtf8
    rw [if_pos hsmall, ih fun x hx => h x (List.mem_cons_of_mem _ hx)]
    rfl

theorem detectEncoding_ascii {text : Text} (h : IsPrintable text) :
    detectEncoding text = .utf8 := by
  have hmark : ∀ a mark, (a < 0x20 ∨ 0x7E < a) → (a :: mark).isPrefixOf text = false := by
    intro a mark ha
    cases text with
    | nil => rfl
    | cons c rest =>
      have hc := h c List.mem_cons_self
      have hne : (a == c) = false := by
        rw [beq_eq_false_iff_ne]
        omega
      simp [List.isPrefixOf, hne]
  unfold detectEncoding
  simp only [hmark 0x00 _ (by omega), hmark 0xFF _ (by omega), hmark 0xFE _ (by omega),
    hmark 0xEF _ (by omega), Bool.or_self, Bool.false_eq_true, if_false]
  split
  · rename_i a b c d rest
    have ha := h a (by simp)
    have hb := h b (by simp)
    rw [if_neg (by omega), if_neg (by omega)]
  · rename_i a b
    have ha := h a (by simp)
    have hb := h b (by simp)
    rw [if_neg (by omega), if_neg (by omega)]
  · rfl

/-- Printable ASCII is its own text. -/
theorem decodeText_asciiBytes {text : Text} (h : IsPrintable text) :
    decodeText (asciiBytes text) = .ok text := by
  unfold decodeText
  rw [toNat_asciiBytes h, detectEncoding_ascii h]
  show (match decodeUtf8 text with | some text => _ | none => _) = _
  rw [decodeUtf8_ascii h]
