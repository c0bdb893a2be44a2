/-
This file shows that reading bytes as text undoes writing text as bytes. Bytes are read as a text exactly
if they are the bytes of that text.
-/

import Mathlib.Data.List.TakeWhile
import LinuxCalls.Text.Utf8

namespace LinuxCalls.Text

/-- The bytes that follow a first byte are those that complete a character with it. -/
def Completes (first : UInt8) (more : Bytes) : Prop :=
  following first = some more.length ∧ continuations first more.length more = more

/-- A first byte announces the length of its character. -/
theorem following_eq (first : UInt8) : following first =
    if first.toNat < 0x80 then some 0
    else if 0xc2 ≤ first.toNat ∧ first.toNat ≤ 0xdf then some 1
    else if 0xe0 ≤ first.toNat ∧ first.toNat ≤ 0xef then some 2
    else if 0xf0 ≤ first.toNat ∧ first.toNat ≤ 0xf4 then some 3
    else none := by
  simp [following, UInt8.lt_iff_toNat_lt, UInt8.le_iff_toNat_le]

/-- A continuing byte carries six bits. -/
theorem isContinuation_iff {byte : UInt8} :
    isContinuation byte = true ↔ 0x80 ≤ byte.toNat ∧ byte.toNat ≤ 0xbf := by
  simp [isContinuation, UInt8.le_iff_toNat_le]

/-- A second byte is a continuing one that leads to no shorter form, no surrogate and no larger number. -/
theorem acceptsSecond_iff {first second : UInt8} : acceptsSecond first second = true ↔
    (0x80 ≤ second.toNat ∧ second.toNat ≤ 0xbf) ∧ (first.toNat = 0xe0 → 0xa0 ≤ second.toNat) ∧
      (first.toNat = 0xed → second.toNat ≤ 0x9f) ∧ (first.toNat = 0xf0 → 0x90 ≤ second.toNat) ∧
      (first.toNat = 0xf4 → second.toNat ≤ 0x8f) := by
  simp only [acceptsSecond, isContinuation, ← UInt8.toNat_inj, UInt8.le_iff_toNat_le, UInt8.reduceToNat,
    apply_ite (· = true), Bool.and_eq_true, decide_eq_true_eq]
  repeat' split
  all_goals omega

/-- The continuations after an accepted second byte go as far as bytes continue. -/
theorem continuations_cons (first second : UInt8) (count : Nat) (rest : Bytes) :
    continuations first (count + 1) (second :: rest) =
      if acceptsSecond first second = true then second :: (rest.take count).takeWhile isContinuation else [] :=
  rfl

/-- Only as many bytes as are announced count as continuations. -/
theorem continuations_take (first : UInt8) (count : Nat) (rest : Bytes) :
    continuations first count (rest.take count) = continuations first count rest := by
  unfold continuations
  rw [List.take_take, Nat.min_self]

/-- The continuations are the first ones of the bytes that follow. -/
theorem continuations_prefix (first : UInt8) (count : Nat) (rest : Bytes) :
    continuations first count rest <+: rest.take count := by
  unfold continuations
  cases rest.take count with
  | nil => exact List.prefix_refl []
  | cons second more =>
    dsimp only
    split
    · exact List.cons_prefix_cons.mpr ⟨rfl, List.takeWhile_prefix isContinuation⟩
    · exact List.nil_prefix

/-- Bytes that complete a character are read as that character, whatever follows. -/
theorem next_of_completes {first : UInt8} {more : Bytes} (completes : Completes first more) (rest : Bytes) :
    next first (more ++ rest) = (some (assemble first more), more.length) := by
  obtain ⟨announced, found⟩ := completes
  have same : continuations first more.length (more ++ rest) = more := by
    rw [← continuations_take, List.take_left, found]
  unfold next
  rw [announced]
  dsimp only
  rw [same, if_pos rfl]

/-- Where a character is read, the bytes that follow the first one complete it. -/
theorem completes_of_next {first : UInt8} {rest : Bytes} {value : Char} {count : Nat}
    (read : next first rest = (some value, count)) :
    Completes first (rest.take count) ∧ assemble first (rest.take count) = value := by
  unfold next at read
  cases announced : following first with
  | none =>
    rw [announced] at read
    cases read
  | some length =>
    rw [announced] at read
    dsimp only at read
    split at read
    · rename_i complete
      obtain ⟨assembled, rfl⟩ := Prod.mk.inj read
      have inside := continuations_prefix first length rest
      have short := List.length_take_le length rest
      have whole : continuations first length rest = rest.take length :=
        inside.eq_of_length_le (by omega)
      rw [complete, ← whole]
      refine ⟨⟨announced.trans (congrArg some complete.symm), ?_⟩, Option.some.inj assembled⟩
      rw [complete, whole, continuations_take, whole]
    · cases read

/-- Bytes all continue if the first one is accepted as a second byte and the others are continuing ones. -/
theorem continuations_eq_self_iff {first second : UInt8} {rest : Bytes} :
    continuations first (second :: rest).length (second :: rest) = second :: rest ↔
      acceptsSecond first second = true ∧ ∀ byte ∈ rest, isContinuation byte = true := by
  rw [List.length_cons, continuations_cons, List.take_length]
  by_cases accepted : acceptsSecond first second = true
  · rw [if_pos accepted, List.cons.injEq]
    simp [accepted, List.takeWhile_eq_self_iff]
  · simp [accepted]

/-- The number of a character is the one that it is made of. -/
theorem toNat_ofNat {value : Nat} (valid : value.isValidChar) : (Char.ofNat value).val.toNat = value := by
  rw [Char.ofNat, dif_pos valid]
  rfl

/-- A byte is the one with its number. -/
theorem ofNat_eq (byte : UInt8) {value : Nat} (same : value = byte.toNat) : UInt8.ofNat value = byte := by
  rw [same, UInt8.ofNat_toNat]

/-- A character is written in as few bytes as its number fits into. -/
theorem utf8EncodeChar_ofNat {value : Nat} (valid : value.isValidChar) :
    String.utf8EncodeChar (Char.ofNat value) =
      if value ≤ 0x7f then [UInt8.ofNat value]
      else if value ≤ 0x7ff then [UInt8.ofNat (value / 64 % 0x20 + 0xc0), UInt8.ofNat (value % 0x40 + 0x80)]
      else if value ≤ 0xffff then
        [UInt8.ofNat (value / 4096 % 0x10 + 0xe0), UInt8.ofNat (value / 64 % 0x40 + 0x80),
          UInt8.ofNat (value % 0x40 + 0x80)]
      else
        [UInt8.ofNat (value / 262144 % 0x08 + 0xf0), UInt8.ofNat (value / 4096 % 0x40 + 0x80),
          UInt8.ofNat (value / 64 % 0x40 + 0x80), UInt8.ofNat (value % 0x40 + 0x80)] := by
  unfold String.utf8EncodeChar
  rw [toNat_ofNat valid]

/-- The character that bytes complete is written as those bytes. -/
theorem utf8EncodeChar_assemble {first : UInt8} {more : Bytes} (completes : Completes first more) :
    String.utf8EncodeChar (assemble first more) = first :: more := by
  obtain ⟨announced, found⟩ := completes
  rw [following_eq] at announced
  rcases more with _ | ⟨second, _ | ⟨third, _ | ⟨fourth, _ | ⟨fifth, rest⟩⟩⟩⟩
  · have lead : first.toNat < 0x80 := by grind
    change String.utf8EncodeChar (Char.ofNat first.toNat) = _
    rw [utf8EncodeChar_ofNat (by omega), if_pos (by omega), ofNat_eq first rfl]
  · have lead : 0xc2 ≤ first.toNat ∧ first.toNat ≤ 0xdf := by grind
    obtain ⟨accepted, -⟩ := continuations_eq_self_iff.mp found
    rw [acceptsSecond_iff] at accepted
    change String.utf8EncodeChar (Char.ofNat (first.toNat % 32 * 64 + second.toNat % 64)) = _
    rw [utf8EncodeChar_ofNat (by omega), if_neg (by omega), if_pos (by omega), ofNat_eq first (by omega),
      ofNat_eq second (by omega)]
  · have lead : 0xe0 ≤ first.toNat ∧ first.toNat ≤ 0xef := by grind
    obtain ⟨accepted, continues⟩ := continuations_eq_self_iff.mp found
    have third' := isContinuation_iff.mp (continues third (by simp))
    rw [acceptsSecond_iff] at accepted
    change String.utf8EncodeChar
      (Char.ofNat ((first.toNat % 16 * 64 + second.toNat % 64) * 64 + third.toNat % 64)) = _
    rw [utf8EncodeChar_ofNat (by omega), if_neg (by omega), if_neg (by omega), if_pos (by omega),
      ofNat_eq first (by omega), ofNat_eq second (by omega), ofNat_eq third (by omega)]
  · have lead : 0xf0 ≤ first.toNat ∧ first.toNat ≤ 0xf4 := by grind
    obtain ⟨accepted, continues⟩ := continuations_eq_self_iff.mp found
    have third' := isContinuation_iff.mp (continues third (by simp))
    have fourth' := isContinuation_iff.mp (continues fourth (by simp))
    rw [acceptsSecond_iff] at accepted
    change String.utf8EncodeChar (Char.ofNat
      (((first.toNat % 8 * 64 + second.toNat % 64) * 64 + third.toNat % 64) * 64 + fourth.toNat % 64)) = _
    rw [utf8EncodeChar_ofNat (by omega), if_neg (by omega), if_neg (by omega), if_neg (by omega),
      ofNat_eq first (by omega), ofNat_eq second (by omega), ofNat_eq third (by omega),
      ofNat_eq fourth (by omega)]
  · rw [List.length_cons, List.length_cons, List.length_cons, List.length_cons] at announced
    grind

/-- A small number is the number of its byte. -/
theorem toNat_byte {value : Nat} (small : value < 256) : (UInt8.ofNat value).toNat = value :=
  UInt8.toNat_ofNat_of_lt' small

/-- A byte with six bits of a number continues. -/
theorem isContinuation_byte (value : Nat) : isContinuation (UInt8.ofNat (value % 0x40 + 0x80)) = true := by
  rw [isContinuation_iff, toNat_byte (by omega)]
  omega

/-- Every character is written as bytes that complete it. -/
theorem exists_completes (value : Char) : ∃ first more, String.utf8EncodeChar value = first :: more ∧
    Completes first more ∧ assemble first more = value := by
  have valid : value.toNat.isValidChar := value.valid
  have written := utf8EncodeChar_ofNat valid
  have back := Char.ofNat_toNat value
  rw [back] at written
  generalize value.toNat = number at valid written back
  rw [written, ← back]
  have last : (UInt8.ofNat (number % 0x40 + 0x80)).toNat = number % 0x40 + 0x80 := toNat_byte (by omega)
  have middle : (UInt8.ofNat (number / 64 % 0x40 + 0x80)).toNat = number / 64 % 0x40 + 0x80 :=
    toNat_byte (by omega)
  have early : (UInt8.ofNat (number / 4096 % 0x40 + 0x80)).toNat = number / 4096 % 0x40 + 0x80 :=
    toNat_byte (by omega)
  by_cases one : number ≤ 0x7f
  · have lead : (UInt8.ofNat number).toNat = number := toNat_byte (by omega)
    refine ⟨_, _, if_pos one, ⟨?_, rfl⟩, congrArg Char.ofNat lead⟩
    rw [following_eq, lead, if_pos (by omega)]
    rfl
  by_cases two : number ≤ 0x7ff
  · have lead : (UInt8.ofNat (number / 64 % 0x20 + 0xc0)).toNat = number / 64 % 0x20 + 0xc0 :=
      toNat_byte (by omega)
    refine ⟨_, _, (if_neg one).trans (if_pos two), ⟨?_, ?_⟩, congrArg Char.ofNat ?_⟩
    · rw [following_eq, lead, if_neg (by omega), if_pos (by omega)]
      rfl
    · rw [continuations_eq_self_iff, acceptsSecond_iff, lead, last]
      exact ⟨by omega, nofun⟩
    · change (UInt8.ofNat _).toNat % 32 * 64 + (UInt8.ofNat _).toNat % 64 = number
      rw [lead, last]
      omega
  by_cases three : number ≤ 0xffff
  · have lead : (UInt8.ofNat (number / 4096 % 0x10 + 0xe0)).toNat = number / 4096 % 0x10 + 0xe0 :=
      toNat_byte (by omega)
    refine ⟨_, _, (if_neg one).trans ((if_neg two).trans (if_pos three)), ⟨?_, ?_⟩, congrArg Char.ofNat ?_⟩
    · rw [following_eq, lead, if_neg (by omega), if_neg (by omega), if_pos (by omega)]
      rfl
    · rw [continuations_eq_self_iff, acceptsSecond_iff, lead, middle]
      exact ⟨by omega, List.forall_mem_singleton.mpr (isContinuation_byte _)⟩
    · change ((UInt8.ofNat _).toNat % 16 * 64 + (UInt8.ofNat _).toNat % 64) * 64 + (UInt8.ofNat _).toNat % 64 =
        number
      rw [lead, middle, last]
      omega
  · have lead : (UInt8.ofNat (number / 262144 % 0x08 + 0xf0)).toNat = number / 262144 % 0x08 + 0xf0 :=
      toNat_byte (by omega)
    refine ⟨_, _, (if_neg one).trans ((if_neg two).trans (if_neg three)), ⟨?_, ?_⟩, congrArg Char.ofNat ?_⟩
    · rw [following_eq, lead, if_neg (by omega), if_neg (by omega), if_neg (by omega), if_pos (by omega)]
      rfl
    · rw [continuations_eq_self_iff, acceptsSecond_iff, lead, early]
      exact ⟨by omega, List.forall_mem_cons.mpr
        ⟨isContinuation_byte _, List.forall_mem_singleton.mpr (isContinuation_byte _)⟩⟩
    · change (((UInt8.ofNat _).toNat % 8 * 64 + (UInt8.ofNat _).toNat % 64) * 64 +
        (UInt8.ofNat _).toNat % 64) * 64 + (UInt8.ofNat _).toNat % 64 = number
      rw [lead, early, middle, last]
      omega

/-- A written character is read as itself, and reading goes on behind it. -/
theorem read_utf8EncodeChar (value : Char) (rest : Bytes) :
    read (String.utf8EncodeChar value ++ rest) = .character value :: read rest := by
  obtain ⟨first, more, written, completes, assembled⟩ := exists_completes value
  rw [written, List.cons_append, read, next_of_completes completes, assembled]
  dsimp only
  rw [List.drop_left]

/-- The characters of a text are read from its bytes. -/
theorem read_flatMap_utf8EncodeChar (characters : List Char) :
    read (characters.flatMap String.utf8EncodeChar) = characters.map .character := by
  induction characters with
  | nil => rw [List.flatMap_nil, read, List.map_nil]
  | cons value rest step => rw [List.flatMap_cons, read_utf8EncodeChar, step, List.map_cons]

/-- Bytes whose pieces are all characters are those that the characters are written as. -/
theorem flatMap_utf8EncodeChar_of_read {bytes : Bytes} {characters : List Char}
    (whole : (read bytes).mapM Piece.character? = some characters) :
    characters.flatMap String.utf8EncodeChar = bytes := by
  induction bytes using read.induct generalizing characters with
  | case1 =>
    rw [read, List.mapM_nil] at whole
    cases whole
    rfl
  | case2 first rest step =>
    rw [read, List.mapM_cons] at whole
    rcases found : next first rest with ⟨_ | value, count⟩
    · rw [found] at whole
      cases whole
    · rw [found] at whole step
      dsimp only [Piece.character?] at whole step
      obtain ⟨completes, assembled⟩ := completes_of_next found
      cases later : (read (rest.drop count)).mapM Piece.character? with
      | none =>
        rw [later] at whole
        cases whole
      | some others =>
        rw [later] at whole
        cases whole
        rw [List.flatMap_cons, step later, ← assembled, utf8EncodeChar_assemble completes, List.cons_append,
          List.take_append_drop]

/-- Bytes are read as a text exactly if they are that text's bytes. -/
theorem ofBytes?_eq_some_iff {bytes : Bytes} {text : String} :
    ofBytes? bytes = some text ↔ bytes = Bytes.ofText text := by
  unfold ofBytes? Bytes.ofText
  constructor
  · intro whole
    obtain ⟨characters, found, rfl⟩ := Option.map_eq_some_iff.mp whole
    rw [String.toList_ofList, flatMap_utf8EncodeChar_of_read found]
  · rintro rfl
    have all : (text.toList.map Piece.character).mapM Piece.character? = some text.toList := by
      rw [List.mapM_map]
      exact List.mapM_pure.trans (congrArg some (List.map_id _))
    rw [read_flatMap_utf8EncodeChar, all, Option.map_some, String.ofList_toList]

end LinuxCalls.Text
