import LoopPlayer.Api.Body

/-! Numerals of more digits than are read. A body that holds one is an object like any other, but is
refused before its members are looked at. -/
namespace LoopPlayer

def Text.ascii (text : List Char) : List UInt8 := text.map fun c => UInt8.ofNat c.toNat

theorem Text.Utf8.decodeAscii {text : List Char} (ascii : ∀ c ∈ text, c.toNat < 0x80)
    (position : Nat) : decodeFrom position 0 (Text.ascii text) = .ok text := by
  induction text generalizing position with
  | nil => rfl
  | cons c rest ih =>
    have small := ascii c List.mem_cons_self
    have byte : (UInt8.ofNat c.toNat).toNat = c.toNat := by
      rw [UInt8.toNat_ofNat']
      exact Nat.mod_eq_of_lt (by omega)
    have lead : lead? c.toNat = some ⟨0, 0, 0, c.toNat⟩ := if_pos small
    show decodeFrom position 0 (UInt8.ofNat c.toNat :: Text.ascii rest) = _
    rw [decodeFrom, byte, lead]
    simp only [follow, ih (fun d member => ascii d (List.mem_cons_of_mem c member)), Except.map,
      Char.ofNat_toNat]

namespace Json

def ones (count : Nat) : List Char := List.replicate count '1' ++ ['\x7d']

theorem onesHead {count : Nat} (some : 0 < count) : ∃ more, ones count = '1' :: more := by
  obtain ⟨more, rfl⟩ : ∃ more, count = more + 1 := ⟨count - 1, by omega⟩
  exact ⟨ones more, rfl⟩

theorem wholePartOnes {count : Nat} (some : 0 < count) :
    wholePart (ones count) = List.replicate count '1' := by
  have digits : (ones count).takeWhile Char.isDigit = List.replicate count '1' := by
    rw [ones, List.takeWhile_append_of_pos fun c member => by
      rw [List.eq_of_mem_replicate member]
      rfl]
    exact List.append_nil _
  obtain ⟨more, head⟩ := onesHead some
  rw [← digits, head]
  rfl

variable {count : Nat} (long : Number.digitLimit < count)

include long

theorem numberTooLong : number? (ones count) = some (.error (.tooLong count)) := by
  have many : 0 < count := Nat.zero_lt_of_lt long
  have sign : takeSign (ones count) = (false, ones count) := by
    obtain ⟨more, head⟩ := onesHead many
    rw [head]
    rfl
  have filled : (List.replicate count '1').isEmpty = false := by
    simp only [List.isEmpty_replicate, decide_eq_false_iff_not]
    omega
  have rest : (ones count).drop (List.replicate count '1').length = ['\x7d'] := List.drop_left
  unfold number?
  simp only [sign, wholePartOnes many, filled, rest, Bool.false_eq_true, if_false, takeFraction]
  show (if _ then _ else _) = _
  rw [List.length_replicate, if_pos long]

theorem valueTooLong (fuel room : Nat) :
    valueFrom (fuel + 1) room (ones count) = .error (.tooLong count) := by
  obtain ⟨more, head⟩ := onesHead (Nat.zero_lt_of_lt long)
  have noWord : words.find? (fun word => word.1.toList.isPrefixOf (ones count)) = none := by
    rw [head]
    rfl
  have scalar : scalar (ones count) = .error (.tooLong count) := by
    rw [Json.scalar, noWord, numberTooLong long]
    rfl
  rw [← scalar, head]
  rfl

theorem memberTooLong (fuel room : Nat) :
    membersFrom (fuel + 9) room [] ("\"speed\":".toList ++ ones count) =
      .error (.tooLong count) := by
  have name : stringFrom ("\"speed\":".toList ++ ones count) (fuel + 8) []
      ("speed\":".toList ++ ones count) = .ok ("speed", ':' :: ones count) := rfl
  have bare : skipSpace (ones count) = ones count := by
    obtain ⟨more, head⟩ := onesHead (Nat.zero_lt_of_lt long)
    rw [head]
    rfl
  have colon : skipSpace (':' :: ones count) = ':' :: ones count := rfl
  have quoted : "\"speed\":".toList ++ ones count = '"' :: ("speed\":".toList ++ ones count) := rfl
  rw [quoted] at name ⊢
  simp only [membersFrom, name, colon, bare, valueTooLong long]

theorem readTooLong (room : Nat) :
    read (room + 1) ("\x7b\"speed\":".toList ++ ones count) = .error (.tooLong count) := by
  have opened (fuel : Nat) :
      valueFrom (fuel + 10) (room + 1) ("\x7b\"speed\":".toList ++ ones count) =
        .error (.tooLong count) := memberTooLong long fuel room
  have enough : 2 * ("\x7b\"speed\":".toList ++ ones count).length + 2 =
      2 * (ones count).length + 10 + 10 := by
    rw [List.length_append, show "\x7b\"speed\":".toList.length = 9 from rfl]
    omega
  have bare : skipSpace ("\x7b\"speed\":".toList ++ ones count) =
    "\x7b\"speed\":".toList ++ ones count := rfl
  have noMark : (("\x7b\"speed\":".toList ++ ones count).head? == some '\ufeff') = false := rfl
  simp only [read, noMark, bare, enough, opened, Bool.false_eq_true, if_false]

end Json

namespace Api

theorem longSpeedUnread {σ : Type} [Scheduler σ] (rig : Rig σ) (room : Nat) {count : Nat}
    (long : Number.digitLimit < count) :
    serve? (room + 1) rig "POST" "/speed"
        (Text.ascii ("\x7b\"speed\":".toList ++ Json.ones count)) =
      some (rig, Refusal.unreadable.response) := by
  have decoded : Json.textOf (Text.ascii ("\x7b\"speed\":".toList ++ Json.ones count)) =
      .ok ("\x7b\"speed\":".toList ++ Json.ones count) := by
    have name : "\x7b\"speed\":".toList.all (fun c => decide (c.toNat < 0x80)) := by decide
    have ascii : ∀ c ∈ "\x7b\"speed\":".toList ++ Json.ones count, c.toNat < 0x80 := by
      intro c member
      rcases List.mem_append.mp member with named | counted
      · exact of_decide_eq_true (List.all_eq_true.mp name c named)
      · rcases List.mem_append.mp counted with digit | brace
        · rw [List.eq_of_mem_replicate digit]
          decide
        · rw [List.mem_singleton.mp brace]
          decide
    have plain : Json.textOf (Text.ascii ("\x7b\"speed\":".toList ++ Json.ones count)) =
        Json.Encoding.decode (Text.ascii ("\x7b\"speed\":".toList ++ Json.ones count)) .utf8 := rfl
    rw [plain, Json.Encoding.decode, Text.Utf8.decode, Text.Utf8.decodeAscii ascii]
  have unread : bodyOf? (room + 1) (Text.ascii ("\x7b\"speed\":".toList ++ Json.ones count)) =
      some (.error .unreadable) := by
    rw [bodyOf?, decoded]
    simp only [Json.readTooLong long]
  rw [serve?, unread]
  rfl

end Api
end LoopPlayer
