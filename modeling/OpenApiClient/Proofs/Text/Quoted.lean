import OpenApiClient.Json.Text
import OpenApiClient.Text.Quoted

/-!
# Reading quoted texts

How a JSON string is read: every escape of the format, numbered ones in either letter case, and
pairs of surrogates. A text that is written as a JSON string is read back as it was, whatever
characters it has, and its string stands on one line.

Results:
* `readQuoted_quoteChar`: one character is read from what is written for it.
* `readQuoted_quoted`: a text is read from its string, whatever follows.
* `length_lt_length_quoted`: no text is its own string.
* `visible_of_mem_quoted`: no control stands in a string as it is.
-/
namespace OpenApiClient.Text

/-! ## The reader -/

/-- The value of a hexadecimal digit. -/
def hexDigitValue? (c : Char) : Option Nat :=
  if c.isDigit then some (c.toNat - 0x30)
  else if 'a' ≤ c ∧ c ≤ 'f' then some (c.toNat - 0x57)
  else if 'A' ≤ c ∧ c ≤ 'F' then some (c.toNat - 0x37)
  else none

/-- The number that hexadecimal digits write. -/
def hexNumber? (digits : List Char) : Option Nat :=
  digits.foldlM (fun value c => (hexDigitValue? c).map (value * 16 + ·)) 0

/-- The character that stands behind a backslash for itself or for a control. -/
def escapedChar? (c : Char) : Option Char :=
  [('\x22', '\x22'), ('\\', '\\'), ('/', '/'), ('b', '\x08'), ('f', '\x0c'), ('n', '\n'),
    ('r', '\r'), ('t', '\t')].lookup c

/-- What has been read, with one more character in front. -/
def prepend (c : Char) (read : Option (List Char × List Char)) :
    Option (List Char × List Char) :=
  read.map fun (text, after) => (c :: text, after)

/-- What a number stands for in a JSON string, where `leading` is the leading surrogate right
before it: a character, or the leading surrogate of the next one. -/
def meaning? (leading : Option Nat) (number : Nat) : Option (Char ⊕ Nat) :=
  match leading with
  | some first =>
    if Json.isTrailing number then some (.inl (Json.pairedChar first number)) else none
  | none =>
    if Json.isLeading number then some (.inr number)
    else if Json.isTrailing number then none
    else some (.inl (Char.ofNat number))

/-- Reads a JSON string up to its closing quote, and gives what follows. Behind a leading
surrogate only the trailing one can follow. -/
def readQuoted : Option Nat → List Char → Option (List Char × List Char)
  | leading, '\\' :: 'u' :: a :: b :: c :: d :: rest =>
    ((hexNumber? [a, b, c, d]).bind (meaning? leading)).bind fun
      | .inl c => prepend c (readQuoted none rest)
      | .inr first => readQuoted (some first) rest
  | none, '\\' :: c :: rest => (escapedChar? c).bind fun c => prepend c (readQuoted none rest)
  | none, '\x22' :: rest => some ([], rest)
  | none, c :: rest => if c = '\\' ∨ c.toNat < 0x20 then none else prepend c (readQuoted none rest)
  | _, _ => none

/-- The text of a JSON string. -/
def unquoted? : List Char → Option (List Char)
  | '\x22' :: rest =>
    match readQuoted none rest with
    | some (text, []) => some text
    | _ => none
  | _ => none

/-! ## Reading what was written -/

/-- The two digits that are written for a control are read as its number. -/
theorem hexNumber?_control : ∀ n < 0x20,
    hexNumber? ['0', '0', hexDigit (n / 16), hexDigit (n % 16)] = some n := by
  decide

/-- A number below that of the blank is no surrogate. -/
theorem meaning?_control {c : Char} (h : c.toNat < 0x20) :
    meaning? none c.toNat = some (.inl c) := by
  have hleading : Json.isLeading c.toNat = false := by
    rw [Json.isLeading, Bool.and_eq_false_iff]
    exact .inl (decide_eq_false (by omega))
  have htrailing : Json.isTrailing c.toNat = false := by
    rw [Json.isTrailing, Bool.and_eq_false_iff]
    exact .inl (decide_eq_false (by omega))
  simp only [meaning?, hleading, htrailing, Bool.false_eq_true, if_false, Char.ofNat_toNat]

/-- A character that is neither a quote nor a backslash nor a control stands for itself. -/
theorem readQuoted_plain {c : Char} (hquote : c ≠ '\x22') (hbackslash : c ≠ '\\')
    (hvisible : ¬ c.toNat < 0x20) (rest : List Char) :
    readQuoted none (c :: rest) = prepend c (readQuoted none rest) := by
  rw [readQuoted]
  · rw [if_neg (not_or.mpr ⟨hbackslash, hvisible⟩)]
  · exact fun _ _ _ _ _ e => absurd e hbackslash
  · exact fun _ _ e => absurd e hbackslash
  · exact hquote

/-- One character is read from what is written for it. -/
theorem readQuoted_quoteChar (c : Char) (rest : List Char) :
    readQuoted none (quoteChar c ++ rest) = prepend c (readQuoted none rest) := by
  unfold quoteChar
  split
  case h_8 hquote hbackslash _ _ _ _ _ =>
    split
    · rename_i hcontrol
      show readQuoted none ('\\' :: 'u' :: '0' :: '0' :: hexDigit (c.toNat / 16) ::
        hexDigit (c.toNat % 16) :: rest) = _
      rw [readQuoted, hexNumber?_control _ hcontrol, Option.bind_some, meaning?_control hcontrol]
      rfl
    · exact readQuoted_plain hquote hbackslash ‹_› rest
  all_goals rfl

/-- A text is read from its string, whatever follows. -/
theorem readQuoted_quoted (text rest : List Char) :
    readQuoted none (text.flatMap quoteChar ++ '\x22' :: rest) = some (text, rest) := by
  induction text with
  | nil => rfl
  | cons c more ih =>
    rw [List.flatMap_cons, List.append_assoc, readQuoted_quoteChar, ih]
    rfl

theorem unquoted?_quoted (text : List Char) : unquoted? (quoted text) = some text := by
  rw [quoted, unquoted?, readQuoted_quoted]

/-! ## What a string looks like -/

theorem quoteChar_ne_nil (c : Char) : quoteChar c ≠ [] := by
  unfold quoteChar
  split
  case h_8 => split <;> exact List.cons_ne_nil _ _
  all_goals exact List.cons_ne_nil _ _

/-- A string is longer than its text. -/
theorem length_lt_length_quoted (text : List Char) : text.length < (quoted text).length := by
  have hbody : text.length ≤ (text.flatMap quoteChar).length := by
    induction text with
    | nil => exact Nat.le_refl 0
    | cons c rest ih =>
      have hc : 0 < (quoteChar c).length := List.length_pos_iff.mpr (quoteChar_ne_nil c)
      rw [List.flatMap_cons, List.length_append, List.length_cons]
      omega
  rw [quoted, List.length_cons, List.length_append, List.length_singleton]
  omega

theorem visible_hexDigit : ∀ n < 16, 0x20 ≤ (hexDigit n).toNat := by decide

theorem visible_of_mem_quoteChar {c d : Char} (h : d ∈ quoteChar c) : 0x20 ≤ d.toNat := by
  unfold quoteChar at h
  split at h
  case h_8 =>
    split at h
    · simp only [List.mem_cons, List.not_mem_nil, or_false] at h
      rcases h with rfl | rfl | rfl | rfl | rfl | rfl
      · decide
      · decide
      · decide
      · decide
      · exact visible_hexDigit _ (by omega)
      · exact visible_hexDigit _ (by omega)
    · obtain rfl := List.mem_singleton.mp h
      omega
  all_goals
    simp only [List.mem_cons, List.not_mem_nil, or_false] at h
    rcases h with rfl | rfl <;> decide

/-- No control stands in a string as it is, so that the string is on one line. -/
theorem visible_of_mem_quoted {text : List Char} {c : Char} (h : c ∈ quoted text) :
    0x20 ≤ c.toNat := by
  rw [quoted, List.mem_cons, List.mem_append, List.mem_singleton] at h
  rcases h with rfl | h | rfl
  · decide
  · obtain ⟨d, -, hd⟩ := List.mem_flatMap.mp h
    exact visible_of_mem_quoteChar hd
  · decide

end OpenApiClient.Text
