import Mathlib.Algebra.GroupWithZero.Nat
import Mathlib.Algebra.Ring.Int.Defs
import Mathlib.Data.List.Perm.Subperm
import Std.Data.ExtTreeMap.Lemmas
import Std.Data.ExtTreeSet.Lemmas

/-! Values written to a byte stream one after another, and what the stream alone
determines. A writer is read back when its bytes, followed by anything, fix the
value and the point where its bytes end. -/

namespace Simetro.Library

/-- The bytes written for a value, and that the value is one the written types can
hold: the model's numbers and lengths are unbounded, the written ones are not. -/
structure Chunk where
  bytes : List UInt8
  fits : Bool

namespace Chunk

instance : Append Chunk := ⟨fun first second =>
  ⟨first.bytes ++ second.bytes, first.fits && second.fits⟩⟩

@[simp] theorem bytes_append (first second : Chunk) :
    (first ++ second).bytes = first.bytes ++ second.bytes := rfl

@[simp] theorem fits_append (first second : Chunk) :
    (first ++ second).fits = (first.fits && second.fits) := rfl

theorem fits_append_iff {first second : Chunk} :
    (first ++ second).fits ↔ first.fits ∧ second.fits := Bool.and_eq_true_iff

theorem append_assoc (first second third : Chunk) :
    first ++ second ++ third = first ++ (second ++ third) := by
  show Chunk.mk _ _ = Chunk.mk _ _
  simp [Bool.and_assoc]

/-- Bytes as they are. -/
def raw (bytes : List UInt8) : Chunk := ⟨bytes, true⟩

theorem append_nil (chunk : Chunk) : chunk ++ raw [] = chunk := by
  change Chunk.mk (chunk.bytes ++ []) (chunk.fits && true) = chunk
  rw [List.append_nil, Bool.and_true]

@[simp] theorem bytes_raw (bytes : List UInt8) : (raw bytes).bytes = bytes := rfl

@[simp] theorem fits_raw (bytes : List UInt8) : (raw bytes).fits = true := rfl

def byte (value : UInt8) : Chunk := raw [value]

@[simp] theorem bytes_byte (value : UInt8) : (byte value).bytes = [value] := rfl

@[simp] theorem fits_byte (value : UInt8) : (byte value).fits = true := rfl

end Chunk

open Chunk

/-! ## Numbers -/

/-- The `width` low bytes of a number, least significant first. -/
def leBytes : Nat → Nat → List UInt8
  | 0, _ => []
  | width + 1, value => UInt8.ofNat value :: leBytes width (value / 256)

@[simp] theorem length_leBytes (width value : Nat) : (leBytes width value).length = width := by
  induction width generalizing value with
  | zero => rfl
  | succ width ih => simp [leBytes, ih]

theorem leBytes_injective (small : first < 256 ^ width) (small' : second < 256 ^ width)
    (same : leBytes width first = leBytes width second) : first = second := by
  induction width generalizing first second with
  | zero =>
    rw [Nat.pow_zero] at small small'
    omega
  | succ width ih =>
    simp only [leBytes, List.cons.injEq] at same
    obtain ⟨low, high⟩ := same
    have lows : first % 256 = second % 256 := by
      have := congrArg UInt8.toNat low
      simpa using this
    have highs : first / 256 = second / 256 := by
      rw [Nat.pow_succ, Nat.mul_comm] at small small'
      exact ih (Nat.div_lt_of_lt_mul small) (Nat.div_lt_of_lt_mul small') high
    omega

theorem leBytes_add (low high value : Nat) :
    leBytes (low + high) value = leBytes low value ++ leBytes high (value / 256 ^ low) := by
  induction low generalizing value with
  | zero => simp [leBytes]
  | succ low ih =>
    rw [Nat.succ_add, leBytes, leBytes, ih, Nat.div_div_eq_div_mul, ← Nat.pow_succ']
    rfl

/-- An unsigned number of `width` bytes. -/
def unsigned (width value : Nat) : Chunk := ⟨leBytes width value, decide (value < 256 ^ width)⟩

theorem fits_unsigned {width value : Nat} :
    (unsigned width value).fits ↔ value < 256 ^ width := decide_eq_true_iff

abbrev u8 := unsigned 1
abbrev u16 := unsigned 2
abbrev u32 := unsigned 4
abbrev u64 := unsigned 8

/-- A signed 64-bit number in two's complement. -/
def i64 (value : Int) : Chunk :=
  ⟨leBytes 8 (value % 2 ^ 64).toNat, decide (-2 ^ 63 ≤ value ∧ value < 2 ^ 63)⟩

/-- A 32-bit word that is only passed on. -/
def word32 (bits : BitVec 32) : Chunk := u32 bits.toNat

/-- `f32::to_le_bytes`. -/
def f32 (value : Float32) : Chunk := u32 value.toBits.toNat

/-- `f64::to_le_bytes`. -/
def f64 (value : Float) : Chunk := u64 value.toBits.toNat

/-! ## Text -/

/-- The UTF-8 bytes of a list of characters. -/
def utf8Chars (chars : List Char) : List UInt8 := chars.flatMap String.utf8EncodeChar

/-- The UTF-8 bytes of a string. -/
def utf8 (text : String) : List UInt8 := utf8Chars text.toList

@[simp] theorem utf8Chars_nil : utf8Chars [] = [] := rfl

@[simp] theorem utf8Chars_cons (head : Char) (tail : List Char) :
    utf8Chars (head :: tail) = String.utf8EncodeChar head ++ utf8Chars tail := rfl

@[simp] theorem utf8Chars_append (first second : List Char) :
    utf8Chars (first ++ second) = utf8Chars first ++ utf8Chars second := List.flatMap_append

/-- UTF-8 marks where a character ends. -/
theorem utf8EncodeChar_reads
    (same : String.utf8EncodeChar first ++ after = String.utf8EncodeChar second ++ rest) :
    first = second ∧ after = rest := by
  have decoded (c : Char) (tail : List UInt8) :
      ((String.utf8EncodeChar c ++ tail).toByteArray).utf8DecodeChar? 0 = some c := by
    rw [List.toByteArray_append]
    exact ByteArray.utf8DecodeChar?_utf8EncodeChar_append
  have characters : first = second := by
    have here := decoded first after
    rw [same, decoded second rest] at here
    exact (Option.some.inj here).symm
  subst characters
  exact ⟨rfl, List.append_cancel_left same⟩

theorem utf8Chars_injective : ∀ {first second : List Char},
    utf8Chars first = utf8Chars second → first = second
  | [], [], _ => rfl
  | [], head :: _, same => by
    have := congrArg List.length same
    have := String.utf8EncodeChar_ne_nil (c := head)
    simp_all
  | head :: _, [], same => by
    have := congrArg List.length same
    have := String.utf8EncodeChar_ne_nil (c := head)
    simp_all
  | _ :: _, _ :: _, same => by
    obtain ⟨heads, tails⟩ := utf8EncodeChar_reads same
    rw [heads, utf8Chars_injective tails]

@[simp] theorem utf8_ofList (chars : List Char) : utf8 (String.ofList chars) = utf8Chars chars := by
  simp [utf8]

theorem length_utf8 (text : String) : (utf8 text).length = text.utf8ByteSize := by
  obtain ⟨chars, rfl⟩ : ∃ chars, text = String.ofList chars :=
    ⟨text.toList, String.ofList_toList.symm⟩
  rw [utf8_ofList, ← String.size_toByteArray, String.toByteArray_ofList, List.utf8Encode,
    List.size_toByteArray]
  rfl

/-- No character takes more than four bytes. -/
theorem utf8ByteSize_le (value : String) : value.utf8ByteSize ≤ 4 * value.length := by
  have each (characters : List Char) : (utf8Chars characters).length ≤ 4 * characters.length := by
    induction characters with
    | nil => exact Nat.le_refl _
    | cons head tail ih =>
      have one : (String.utf8EncodeChar head).length ≤ 4 := by
        rw [String.length_utf8EncodeChar]
        exact Char.utf8Size_le_four head
      rw [utf8Chars_cons, List.length_append, List.length_cons]
      omega
  rw [← length_utf8, ← String.length_toList]
  exact each value.toList

theorem utf8_injective (same : utf8 first = utf8 second) : first = second :=
  String.toList_injective (utf8Chars_injective same)

theorem toNat_ofNat_ascii (ascii : code < 128) : (Char.ofNat code).toNat = code := by
  have valid : code.isValidChar := .inl (by omega)
  rw [Char.ofNat, dif_pos valid]
  rfl

theorem utf8EncodeChar_ascii (ascii : code < 128) :
    String.utf8EncodeChar (Char.ofNat code) = [UInt8.ofNat code] := by
  have value : (Char.ofNat code).val.toNat = code := toNat_ofNat_ascii ascii
  have small : code ≤ 127 := by omega
  simp only [String.utf8EncodeChar, value, small, if_true]

/-- ASCII codes as text. -/
def asciiChars (codes : List Nat) : List Char := codes.map Char.ofNat

theorem utf8Chars_ascii {codes : List Nat} (ascii : ∀ code ∈ codes, code < 128) :
    utf8Chars (asciiChars codes) = codes.map UInt8.ofNat := by
  induction codes with
  | nil => rfl
  | cons code codes ih =>
    obtain ⟨small, ascii⟩ := List.forall_mem_cons.mp ascii
    simp only [asciiChars, List.map_cons, utf8Chars_cons, utf8EncodeChar_ascii small,
      List.cons_append, List.nil_append, List.cons.injEq, true_and]
    exact ih ascii

/-- Two texts, each closed by an ASCII byte and followed by anything, in one stream: they
are the same, or the closing byte of one is a character of the other. -/
theorem utf8Chars_closed {stop stop' : Nat} (ascii : stop < 128) (ascii' : stop' < 128) :
    ∀ {first second : List Char} {after rest : List UInt8},
      utf8Chars first ++ UInt8.ofNat stop :: after =
        utf8Chars second ++ UInt8.ofNat stop' :: rest →
      (first = second ∧ stop = stop' ∧ after = rest) ∨
      (∃ chars, second = first ++ Char.ofNat stop :: chars ∧
        after = utf8Chars chars ++ UInt8.ofNat stop' :: rest) ∨
      (∃ chars, first = second ++ Char.ofNat stop' :: chars ∧
        rest = utf8Chars chars ++ UInt8.ofNat stop :: after)
  | [], [], after, rest, same => by
    simp only [utf8Chars_nil, List.nil_append, List.cons.injEq] at same
    have stops := congrArg UInt8.toNat same.1
    simp only [UInt8.toNat_ofNat'] at stops
    exact .inl ⟨rfl, by omega, same.2⟩
  | [], head :: tail, after, rest, same => by
    have front : String.utf8EncodeChar (Char.ofNat stop) ++ after =
        String.utf8EncodeChar head ++ (utf8Chars tail ++ UInt8.ofNat stop' :: rest) := by
      simpa [utf8EncodeChar_ascii ascii] using same
    obtain ⟨rfl, ends⟩ := utf8EncodeChar_reads front
    exact .inr (.inl ⟨tail, rfl, ends⟩)
  | head :: tail, [], after, rest, same => by
    have front : String.utf8EncodeChar (Char.ofNat stop') ++ rest =
        String.utf8EncodeChar head ++ (utf8Chars tail ++ UInt8.ofNat stop :: after) := by
      simpa [utf8EncodeChar_ascii ascii'] using same.symm
    obtain ⟨rfl, ends⟩ := utf8EncodeChar_reads front
    exact .inr (.inr ⟨tail, rfl, ends⟩)
  | head :: tail, front :: others, after, rest, same => by
    simp only [utf8Chars_cons, List.append_assoc] at same
    obtain ⟨rfl, tails⟩ := utf8EncodeChar_reads same
    obtain ⟨rfl, stops, ends⟩ | ⟨chars, longer, ends⟩ | ⟨chars, longer, ends⟩ :=
      utf8Chars_closed ascii ascii' tails
    · exact .inl ⟨rfl, stops, ends⟩
    · exact .inr (.inl ⟨chars, by rw [longer, List.cons_append], ends⟩)
    · exact .inr (.inr ⟨chars, by rw [longer, List.cons_append], ends⟩)

/-- Text without its length. -/
def bare (text : String) : Chunk := raw (utf8 text)

/-- A string behind its length in bytes. -/
def str (text : String) : Chunk := u64 (utf8 text).length ++ raw (utf8 text)

/-! ## Choices and lists -/

/-- A presence byte, and the value where there is one. -/
def maybe (feed : Value → Chunk) : Option Value → Chunk
  | some value => byte 1 ++ feed value
  | none => byte 0

/-- Values one after another, with nothing that says how many. -/
def each (feed : Value → Chunk) : List Value → Chunk
  | [] => raw []
  | value :: values => feed value ++ each feed values

/-- A list behind its length. -/
def counted (feed : Value → Chunk) (values : List Value) : Chunk :=
  u64 values.length ++ each feed values

/-- A map behind its size, in key order. -/
def entries {order : Key → Key → Ordering} [Std.TransCmp order] (key : Key → Chunk)
    (feed : Value → Chunk) (map : Std.ExtTreeMap Key Value order) : Chunk :=
  counted (fun entry => key entry.1 ++ feed entry.2) map.toList

/-- A set behind its size, in order. -/
def members {order : Key → Key → Ordering} [Std.TransCmp order] (key : Key → Chunk)
    (set : Std.ExtTreeSet Key order) : Chunk :=
  counted key set.toList

/-- Values behind a label, and nothing at all where there are none. -/
def labelled (label : String) (feed : Value → Chunk) (values : List Value) : Chunk :=
  if values.isEmpty then raw [] else bare label ++ counted feed values

/-- Values behind a label, their number being told elsewhere. -/
def headed (label : String) (feed : Value → Chunk) (values : List Value) : Chunk :=
  if values.isEmpty then raw [] else bare label ++ each feed values

theorem bytes_each (feed : Value → Chunk) (values : List Value) :
    (each feed values).bytes = values.flatMap fun value => (feed value).bytes := by
  induction values with
  | nil => rfl
  | cons value values ih => simp [each, ih]

theorem fits_each (feed : Value → Chunk) (values : List Value) :
    (each feed values).fits ↔ ∀ value ∈ values, (feed value).fits := by
  induction values with
  | nil => simp [each]
  | cons value values ih => simp [each, ih]

theorem each_map (feed : Other → Chunk) (change : Value → Other) (values : List Value) :
    each feed (values.map change) = each (fun value => feed (change value)) values := by
  induction values with
  | nil => rfl
  | cons value values ih => simp only [List.map_cons, each, ih]

theorem entries_map {Key Value Other : Type} {order : Key → Key → Ordering} [Std.TransCmp order]
    (key : Key → Chunk) (feed : Other → Chunk) (change : Value → Other)
    (map : Std.ExtTreeMap Key Value order) :
    entries key feed (map.map fun _ value => change value) =
      entries key (fun value => feed (change value)) map := by
  simp only [entries, counted, Std.ExtTreeMap.toList_map, List.length_map, each_map]

/-- Rows under keys of fewer than eight bytes are never too many to be counted. -/
theorem fits_entries {Value : Type} {feed : Value → Chunk} {map : Std.ExtTreeMap Nat Value}
    {width : Nat} (narrow : width < 8) : (entries (unsigned width) feed map).fits ↔
      ∀ (key : Nat) (value : Value), map[key]? = some value →
        key < 256 ^ width ∧ (feed value).fits := by
  have rows : (each (fun entry : Nat × Value => unsigned width entry.1 ++ feed entry.2)
      map.toList).fits ↔ ∀ (key : Nat) (value : Value), map[key]? = some value →
        key < 256 ^ width ∧ (feed value).fits := by
    simp only [fits_each, fits_append_iff, fits_unsigned, Prod.forall,
      Std.ExtTreeMap.mem_toList_iff_getElem?_eq_some]
  rw [entries, counted, fits_append_iff, rows, and_iff_right_iff_imp, fits_unsigned]
  intro small
  have keys : map.keys ⊆ List.range (256 ^ width) := by
    intro key member
    obtain ⟨value, found⟩ := Option.isSome_iff_exists.mp
      (Std.ExtTreeMap.mem_iff_isSome_getElem?.mp (Std.ExtTreeMap.mem_keys.mp member))
    exact List.mem_range.mpr (small key value found).1
  have few := (List.subperm_of_subset Std.ExtTreeMap.nodup_keys keys).length_le
  rw [List.length_range, Std.ExtTreeMap.length_keys] at few
  rw [Std.ExtTreeMap.length_toList]
  exact Nat.lt_of_le_of_lt few (Nat.pow_lt_pow_right (by decide) narrow)

/-- A yes or no as one byte. -/
def flag (value : Bool) : Chunk := byte (if value then 1 else 0)

/-- A label that neither starts another nor goes on from it does not come from what is
behind the other. -/
theorem not_prefix_append {label other after : List UInt8}
    (apart : ¬ label <+: other ∧ ¬ other <+: label) : ¬ label <+: other ++ after := by
  intro starts
  obtain shorter | longer := List.prefix_or_prefix_of_prefix starts (List.prefix_append other after)
  · exact apart.1 shorter
  · exact apart.2 longer

theorem not_prefix_labelled {feed : Value → Chunk} {values : List Value} {label : List UInt8}
    {other : String} {after : List UInt8}
    (apart : ¬ label <+: utf8 other ∧ ¬ utf8 other <+: label) (stops : ¬ label <+: after) :
    ¬ label <+: (labelled other feed values).bytes ++ after := by
  cases values with
  | nil => exact stops
  | cons value values =>
    rw [labelled, if_neg (by simp), bytes_append, List.append_assoc]
    exact not_prefix_append apart

theorem not_prefix_headed {feed : Value → Chunk} {values : List Value} {label : List UInt8}
    {other : String} {after : List UInt8}
    (apart : ¬ label <+: utf8 other ∧ ¬ utf8 other <+: label) (stops : ¬ label <+: after) :
    ¬ label <+: (headed other feed values).bytes ++ after := by
  cases values with
  | nil => exact stops
  | cons value values =>
    rw [headed, if_neg (by simp), bytes_append, List.append_assoc]
    exact not_prefix_append apart

/-! ## Reading back -/

/-- Two chunks of proper values with equal bytes, each with what follows it. -/
def Chunk.Agree (first second : Chunk) (after rest : List UInt8) : Prop :=
  first.fits ∧ second.fits ∧ first.bytes ++ after = second.bytes ++ rest

/-- The stream determines `view` of the value, and where the value ends. -/
structure Reads (feed : Source → Chunk) (view : Source → View) : Prop where
  read : ∀ {first second after rest}, Agree (feed first) (feed second) after rest →
    view first = view second ∧ after = rest

namespace Chunk

variable {first second later last : Chunk} {after rest : List UInt8}

theorem Agree.left (agree : Agree (first ++ later) (second ++ last) after rest) :
    Agree first second (later.bytes ++ after) (last.bytes ++ rest) :=
  ⟨(fits_append_iff.mp agree.1).1, (fits_append_iff.mp agree.2.1).1,
    by simpa [List.append_assoc] using agree.2.2⟩

theorem Agree.right (agree : Agree (first ++ later) (second ++ last) after rest)
    (ends : later.bytes ++ after = last.bytes ++ rest) : Agree later last after rest :=
  ⟨(fits_append_iff.mp agree.1).2, (fits_append_iff.mp agree.2.1).2, ends⟩

/-- What both streams have in common is skipped. -/
theorem Agree.skip (agree : Agree (first ++ later) (first ++ last) after rest) :
    Agree later last after rest :=
  agree.right (List.append_cancel_left agree.left.2.2)

theorem Agree.ends (agree : Agree (raw []) (raw []) after rest) : after = rest := agree.2.2

/-- Values whose feeds start with a tag have the same tag. -/
theorem Agree.tags {Value : Type} {feed : Value → Chunk} (tag : Value → UInt8)
    (front : ∀ value, ∃ payload, (feed value).bytes = tag value :: payload) {value other : Value}
    (agree : Agree (feed value) (feed other) after rest) : tag value = tag other := by
  obtain ⟨payload, starts⟩ := front value
  obtain ⟨payload', starts'⟩ := front other
  have same := agree.2.2
  rw [starts, starts'] at same
  exact (List.cons.inj same).1

end Chunk

namespace Reads

variable {feed : Source → Chunk} {view : Source → View}
variable {first second : Source} {later last : Chunk} {after rest : List UInt8}

/-- Read one value off the front of two streams. -/
theorem next (reads : Reads feed view)
    (agree : Agree (feed first ++ later) (feed second ++ last) after rest) :
    view first = view second ∧ Agree later last after rest :=
  (reads.read agree.left).imp_right agree.right

theorem on (reads : Reads feed view) (part : Whole → Source) :
    Reads (fun whole => feed (part whole)) (fun whole => view (part whole)) :=
  ⟨fun agree => reads.read agree⟩

/-- A view that another determines. -/
theorem weaken (reads : Reads feed view) {coarse : Source → Coarse}
    (determined : ∀ first second, view first = view second → coarse first = coarse second) :
    Reads feed coarse :=
  ⟨fun agree => (reads.read agree).imp_left (determined _ _)⟩

theorem raw (bytes : List UInt8) : Reads (fun _ : Source => .raw bytes) (fun _ => ()) :=
  ⟨fun agree => ⟨rfl, List.append_cancel_left agree.2.2⟩⟩

theorem bare (text : String) : Reads (fun _ : Source => Library.bare text) (fun _ => ()) := raw _

theorem append {feed' : Source → Chunk} {view' : Source → View'} (reads : Reads feed view)
    (reads' : Reads feed' view') :
    Reads (fun source => feed source ++ feed' source)
      (fun source => (view source, view' source)) := by
  constructor
  intro first second after rest agree
  obtain ⟨views, agree⟩ := reads.next agree
  obtain ⟨views', ends⟩ := reads'.read agree
  exact ⟨Prod.ext views views', ends⟩

/-- Something written with a fixed width is read back when its bytes determine it. -/
theorem of_width (width : Nat) (exact_width : ∀ source, (feed source).bytes.length = width)
    (determined : ∀ first second, (feed first).fits → (feed second).fits →
      (feed first).bytes = (feed second).bytes → view first = view second) :
    Reads feed view := by
  constructor
  intro first second after rest agree
  obtain ⟨fits, fits', same⟩ := agree
  obtain ⟨bytes, ends⟩ := List.append_inj same
    ((exact_width first).trans (exact_width second).symm)
  exact ⟨determined first second fits fits' bytes, ends⟩

theorem maybe (reads : Reads feed view) : Reads (maybe feed) (Option.map view) := by
  constructor
  intro first second after rest agree
  cases first with
  | none =>
    cases second with
    | none => exact ⟨rfl, List.append_cancel_left agree.2.2⟩
    | some value => exact absurd agree.2.2 (by simp [Library.maybe])
  | some value =>
    cases second with
    | none => exact absurd agree.2.2 (by simp [Library.maybe])
    | some other =>
      obtain ⟨values, ends⟩ := reads.read agree.skip
      exact ⟨congrArg some values, ends⟩

/-- Equally many values are read back one by one. -/
theorem each (reads : Reads feed view) : ∀ {values others : List Source} {after rest},
    values.length = others.length → Agree (each feed values) (each feed others) after rest →
      values.map view = others.map view ∧ after = rest
  | [], [], _, _, _, agree => ⟨rfl, agree.ends⟩
  | value :: values, other :: others, _, _, lengths, agree => by
    obtain ⟨heads, agree⟩ := reads.next agree
    obtain ⟨tails, ends⟩ := each reads (Nat.succ.inj lengths) agree
    exact ⟨by rw [List.map_cons, List.map_cons, heads, tails], ends⟩

theorem each_next (reads : Reads feed view) {values others : List Source}
    (lengths : values.length = others.length)
    (agree : Agree (Library.each feed values ++ later) (Library.each feed others ++ last)
      after rest) : values.map view = others.map view ∧ Agree later last after rest :=
  (reads.each lengths agree.left).imp_right agree.right

theorem unsigned (width : Nat) : Reads (unsigned width) fun value => value :=
  of_width width (length_leBytes width) fun _ _ fits fits' =>
    leBytes_injective (of_decide_eq_true fits) (of_decide_eq_true fits')

theorem counted (reads : Reads feed view) : Reads (counted feed) (List.map view) := by
  constructor
  intro first second after rest agree
  obtain ⟨lengths, agree⟩ := (unsigned 8).next agree
  exact reads.each lengths agree

theorem i64 : Reads i64 fun value => value := by
  apply of_width 8 (fun _ => length_leBytes 8 _)
  intro first second fits fits' same
  have residues := leBytes_injective (by omega) (by omega) same
  obtain ⟨low, high⟩ := of_decide_eq_true fits
  obtain ⟨low', high'⟩ := of_decide_eq_true fits'
  show first = second
  omega

theorem word32 : Reads word32 fun bits => bits := by
  apply of_width 4 fun _ => length_leBytes 4 _
  intro first second fits fits' same
  exact BitVec.eq_of_toNat_eq (leBytes_injective (of_decide_eq_true fits) (of_decide_eq_true fits') same)

theorem f32 : Reads f32 fun value => value := by
  apply of_width 4 fun _ => length_leBytes 4 _
  intro first second fits fits' same
  have bits := UInt32.toNat_inj.mp (leBytes_injective (of_decide_eq_true fits) (of_decide_eq_true fits') same)
  obtain ⟨⟨_, _⟩⟩ := first
  obtain ⟨⟨_, _⟩⟩ := second
  cases bits
  rfl

theorem f64 : Reads f64 fun value => value := by
  apply of_width 8 fun _ => length_leBytes 8 _
  intro first second fits fits' same
  have bits := UInt64.toNat_inj.mp (leBytes_injective (of_decide_eq_true fits) (of_decide_eq_true fits') same)
  obtain ⟨⟨_, _⟩⟩ := first
  obtain ⟨⟨_, _⟩⟩ := second
  cases bits
  rfl

/-- The rows of a map are read back as far as its values are. -/
theorem rows {Key Value View : Type} {order : Key → Key → Ordering} [Std.TransCmp order]
    {key : Key → Chunk} {feed : Value → Chunk} {view : Value → View} (keys : Reads key fun key => key)
    (values : Reads feed view) :
    Reads (fun map : Std.ExtTreeMap Key Value order => entries key feed map)
      fun map => map.map fun _ value => view value := by
  have pairs := (keys.on Prod.fst).append (values.on (Prod.snd (α := Key)))
  constructor
  intro first second after rest agree
  obtain ⟨lists, ends⟩ := pairs.counted.read agree
  refine ⟨Std.ExtTreeMap.toList_inj.mp ?_, ends⟩
  rw [Std.ExtTreeMap.toList_map, Std.ExtTreeMap.toList_map]
  exact lists

theorem entries {Key Value : Type} {order : Key → Key → Ordering} [Std.TransCmp order]
    {key : Key → Chunk} {feed : Value → Chunk} (keys : Reads key fun key => key)
    (values : Reads feed fun value => value) :
    Reads (fun map : Std.ExtTreeMap Key Value order => entries key feed map) fun map => map :=
  (rows keys values).weaken fun first second same => by
    simpa using same

theorem members {Key : Type} {order : Key → Key → Ordering} [Std.TransCmp order]
    {key : Key → Chunk} (keys : Reads key fun key => key) :
    Reads (fun set : Std.ExtTreeSet Key order => members key set) fun set => set := by
  constructor
  intro first second after rest agree
  obtain ⟨lists, ends⟩ := keys.counted.read agree
  exact ⟨Std.ExtTreeSet.toList_inj.mp (by simpa using lists), ends⟩

/-- One of a list of words of which none starts another. -/
theorem word {text : Source → String} (words : List String) (listed : ∀ source, text source ∈ words)
    (free : ∀ first ∈ words, ∀ second ∈ words, utf8 first <+: utf8 second → first = second) :
    Reads (fun source => Library.bare (text source)) text := by
  constructor
  intro first second after rest agree
  have same : utf8 (text first) ++ after = utf8 (text second) ++ rest := agree.2.2
  have texts : text first = text second := by
    obtain shorter | longer := List.prefix_or_prefix_of_prefix
      (List.prefix_append (utf8 (text first)) after)
      (same ▸ List.prefix_append (utf8 (text second)) rest)
    · exact free _ (listed first) _ (listed second) shorter
    · exact (free _ (listed second) _ (listed first) longer).symm
  rw [texts] at same
  exact ⟨texts, List.append_cancel_left same⟩

/-- Equally many values behind a label. -/
theorem headed (reads : Reads feed view) {label : String} {values others : List Source}
    (lengths : values.length = others.length)
    (agree : Agree (Library.headed label feed values ++ later)
      (Library.headed label feed others ++ last) after rest) :
    values.map view = others.map view ∧ Agree later last after rest := by
  cases values with
  | nil =>
    cases others with
    | nil => exact ⟨rfl, agree.skip⟩
    | cons => simp at lengths
  | cons value values =>
    cases others with
    | nil => simp at lengths
    | cons other others =>
      simp only [Library.headed, List.isEmpty_cons, Bool.false_eq_true, if_false,
        Chunk.append_assoc] at agree
      exact reads.each_next lengths agree.skip

/-- Values that start with a label, as many as there are: what follows does not start
with the label. -/
theorem each_until (reads : Reads feed view) (label : List UInt8)
    (front : ∀ source, label <+: (feed source).bytes) :
    ∀ {values others : List Source}, Agree (Library.each feed values ++ later) (Library.each feed others ++ last)
        after rest → ¬ label <+: later.bytes ++ after → ¬ label <+: last.bytes ++ rest →
      values.map view = others.map view ∧ Agree later last after rest
  | [], [], agree, _, _ => ⟨rfl, agree.skip⟩
  | [], other :: others, agree, stops, _ => by
    have same : later.bytes ++ after = (feed other).bytes ++ ((Library.each feed others).bytes ++
        (last.bytes ++ rest)) := by simpa [Library.each] using agree.left.2.2
    exact absurd (same ▸ (front other).trans (List.prefix_append _ _)) stops
  | value :: values, [], agree, _, stops => by
    have same : (feed value).bytes ++ ((Library.each feed values).bytes ++ (later.bytes ++ after)) =
        last.bytes ++ rest := by simpa [Library.each] using agree.left.2.2
    exact absurd (same ▸ (front value).trans (List.prefix_append _ _)) stops
  | value :: values, other :: others, agree, stops, stops' => by
    simp only [Library.each, Chunk.append_assoc] at agree
    obtain ⟨heads, agree⟩ := reads.next agree
    obtain ⟨tails, agree⟩ := each_until reads label front agree stops stops'
    exact ⟨by rw [List.map_cons, List.map_cons, heads, tails], agree⟩

/-- Values of a kind that is read back, in a list of values of all kinds. -/
theorem each_kept {Keeps : Source → Prop}
    (reads : Reads (fun kept : { source // Keeps source } => feed kept.1) fun kept => kept.1)
    {values others : List Source} (kept : ∀ value ∈ values, Keeps value)
    (kept' : ∀ other ∈ others, Keeps other) (lengths : values.length = others.length)
    (agree : Agree (Library.each feed values ++ later) (Library.each feed others ++ last) after rest) :
    values = others ∧ Agree later last after rest := by
  rw [← List.attachWith_map_subtype_val kept, ← List.attachWith_map_subtype_val kept', each_map,
    each_map] at agree
  obtain ⟨same, agree⟩ := reads.each_next (by simpa using lengths) agree
  rw [List.attachWith_map_subtype_val, List.attachWith_map_subtype_val] at same
  exact ⟨same, agree⟩

theorem each_until_kept {Keeps : Source → Prop}
    (reads : Reads (fun kept : { source // Keeps source } => feed kept.1) fun kept => kept.1)
    (label : List UInt8) (front : ∀ source, label <+: (feed source).bytes)
    {values others : List Source} (kept : ∀ value ∈ values, Keeps value)
    (kept' : ∀ other ∈ others, Keeps other)
    (agree : Agree (Library.each feed values ++ later) (Library.each feed others ++ last) after rest)
    (stops : ¬ label <+: later.bytes ++ after) (stops' : ¬ label <+: last.bytes ++ rest) :
    values = others ∧ Agree later last after rest := by
  rw [← List.attachWith_map_subtype_val kept, ← List.attachWith_map_subtype_val kept', each_map,
    each_map] at agree
  obtain ⟨same, agree⟩ :=
    reads.each_until label (fun source => front source.1) agree stops stops'
  rw [List.attachWith_map_subtype_val, List.attachWith_map_subtype_val] at same
  exact ⟨same, agree⟩

/-- A labelled list is read back where the label cannot come from what follows. -/
theorem labelled (reads : Reads feed view) {label : String} {values others : List Source}
    (agree : Agree (Library.labelled label feed values ++ later)
      (Library.labelled label feed others ++ last) after rest)
    (stops : ¬ utf8 label <+: later.bytes ++ after)
    (stops' : ¬ utf8 label <+: last.bytes ++ rest) :
    values.map view = others.map view ∧ Agree later last after rest := by
  cases values with
  | nil =>
    cases others with
    | nil => exact ⟨rfl, agree.skip⟩
    | cons other others =>
      have same : later.bytes ++ after = utf8 label ++ ((Library.counted feed (other :: others)).bytes ++
          (last.bytes ++ rest)) := by simpa [Library.labelled, Library.bare] using agree.left.2.2
      exact absurd (same ▸ List.prefix_append (utf8 label) _) stops
  | cons value values =>
    cases others with
    | nil =>
      have same : utf8 label ++ ((Library.counted feed (value :: values)).bytes ++ (later.bytes ++ after)) =
          last.bytes ++ rest := by simpa [Library.labelled, Library.bare] using agree.left.2.2
      exact absurd (same ▸ List.prefix_append (utf8 label) _) stops'
    | cons other others =>
      simp only [Library.labelled, List.isEmpty_cons, Bool.false_eq_true, if_false,
        Chunk.append_assoc] at agree
      exact reads.counted.next agree.skip

theorem str : Reads str fun text => text := by
  constructor
  intro first second after rest agree
  obtain ⟨lengths, agree⟩ := (Reads.unsigned 8).next agree
  obtain ⟨texts, ends⟩ := List.append_inj agree.2.2 lengths
  exact ⟨utf8_injective texts, ends⟩

theorem flag : Reads flag fun value => value := by
  apply of_width 1 (fun _ => rfl)
  intro first second _ _ same
  cases first <;> cases second <;> simp_all [Library.flag]

/-- A tag byte determines what it is an injective code of. -/
theorem tag {code : Source → UInt8} (injective : Function.Injective code) :
    Reads (fun source => .byte (code source)) fun source => source := by
  apply of_width 1 (fun _ => rfl)
  intro first second _ _ same
  exact injective (List.cons.inj same).1

end Reads

/-! ## UTF-16 -/

/-- The UTF-16 code units of a letter. -/
def letterUnits (letter : Char) : List Nat :=
  if letter.toNat < 0x10000 then [letter.toNat]
  else [0xD800 + (letter.toNat - 0x10000) / 0x400, 0xDC00 + (letter.toNat - 0x10000) % 0x400]

def codeUnits (text : String) : List Nat := text.toList.flatMap letterUnits

theorem letterUnits_small {letter : Char} (small : letter.toNat < 0x10000) :
    letterUnits letter = [letter.toNat] := if_pos small

/-- In ids of small letters the units are ordered as the letters are. -/
theorem codeUnits_lt {first second : String} (less : first < second)
    (small : ∀ letter ∈ first.toList ++ second.toList, letter.toNat < 0x10000) :
    codeUnits first < codeUnits second := by
  rw [String.lt_iff] at less
  unfold codeUnits
  generalize first.toList = letters at less small ⊢
  generalize second.toList = others at less small ⊢
  induction less with
  | nil =>
    rw [List.flatMap_cons, letterUnits_small (small _ (by simp))]
    exact .nil
  | cons later ih =>
    rw [List.flatMap_cons, List.flatMap_cons, letterUnits_small (small _ (by simp))]
    apply List.Lex.cons
    apply ih
    intro letter member
    apply small
    grind
  | rel below =>
    rw [List.flatMap_cons, List.flatMap_cons, letterUnits_small (small _ (by simp)),
      letterUnits_small (small _ (by simp))]
    exact .rel below

end Simetro.Library
