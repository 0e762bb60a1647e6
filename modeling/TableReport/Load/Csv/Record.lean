/-!
# Records of a CSV text

A text is bytes. Fields are divided by commas and records by line ends; a field that begins with a
quote goes on to its closing quote, and a quote inside it is written twice. Each reader takes the bytes
from where it starts and gives what it has read with the bytes after it.
-/
namespace TableReport.Csv

/-- The byte of a comma. -/
def comma : UInt8 := 0x2c

/-- The byte of a double quote. -/
def quote : UInt8 := 0x22

/-- The byte of a line feed. -/
def lineFeed : UInt8 := 0x0a

/-- The byte of a carriage return. -/
def carriageReturn : UInt8 := 0x0d

/-- The bytes of a field. -/
abbrev FieldBytes := List UInt8

/-- A byte at which a line ends. -/
def isLineEnd (b : UInt8) : Bool := b == lineFeed || b == carriageReturn

/-- A byte at which a field without quotes ends. -/
def isFieldEnd (b : UInt8) : Bool := b == comma || isLineEnd b

/-- The bytes up to the end of a field without quotes. -/
def plainField (bs : List UInt8) : FieldBytes × List UInt8 :=
  (bs.takeWhile (!isFieldEnd ·), bs.dropWhile (!isFieldEnd ·))

/-- The bytes of a field whose opening quote is read already. A quote inside is written twice; what
follows the closing quote up to the end of the field belongs to it as it stands, and a field that is
not closed goes on to the end of the text. -/
def quotedField : List UInt8 → FieldBytes × List UInt8
  | [] => ([], [])
  | [b] => (if b == quote then [] else [b], [])
  | b :: c :: rest =>
    if b == quote then
      if c == quote then
        let (field, after) := quotedField rest
        (quote :: field, after)
      else plainField (c :: rest)
    else
      let (field, after) := quotedField (c :: rest)
      (b :: field, after)

/-- The bytes of a field. -/
def readField : List UInt8 → FieldBytes × List UInt8
  | [] => ([], [])
  | b :: rest => if b == quote then quotedField rest else plainField (b :: rest)

theorem plainField_length_le (bs : List UInt8) : (plainField bs).2.length ≤ bs.length :=
  (List.dropWhile_sublist _).length_le

theorem quotedField_length_le (bs : List UInt8) : (quotedField bs).2.length ≤ bs.length := by
  fun_induction quotedField bs with
  | case1 => exact Nat.le_refl 0
  | case2 b => exact Nat.zero_le _
  | case3 b c rest _ _ field after h ih =>
    simp only [h, List.length_cons] at ih ⊢
    omega
  | case4 b c rest _ _ =>
    have := plainField_length_le (c :: rest)
    simp only [List.length_cons] at this ⊢
    omega
  | case5 b c rest _ field after h ih =>
    simp only [h, List.length_cons] at ih ⊢
    omega

theorem readField_length_le (bs : List UInt8) : (readField bs).2.length ≤ bs.length := by
  match bs with
  | [] => exact Nat.le_refl 0
  | b :: rest =>
    simp only [readField]
    split
    · exact Nat.le_succ_of_le (quotedField_length_le rest)
    · exact plainField_length_le (b :: rest)

/-- The fields of a record, and the bytes after its line end. -/
def readRecord (bs : List UInt8) : List FieldBytes × List UInt8 :=
  match h : readField bs with
  | (field, []) => ([field], [])
  | (field, b :: rest) =>
    have : rest.length < bs.length := by
      have := readField_length_le bs
      simp only [h, List.length_cons] at this
      omega
    if b == comma then
      let (fields, after) := readRecord rest
      (field :: fields, after)
    else ([field], rest)
termination_by bs.length

theorem readRecord_length_lt {bs : List UInt8} (nonempty : bs ≠ []) :
    (readRecord bs).2.length < bs.length := by
  fun_induction readRecord bs with
  | case1 bs field h => exact List.length_pos_iff.mpr nonempty
  | case2 bs field b rest h less _ fields after h' ih =>
    by_cases hr : rest = []
    · subst hr
      simp only [readRecord, readField] at h'
      obtain ⟨_, rfl⟩ := Prod.mk.inj h'
      exact less
    · have := ih hr
      simp only [h'] at this ⊢
      omega
  | case3 bs field b rest h less _ => exact less

end TableReport.Csv
