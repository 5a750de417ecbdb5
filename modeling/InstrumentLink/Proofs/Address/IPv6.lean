import InstrumentLink.Address.IPv6
import InstrumentLink.Proofs.Address.IPv4
import Mathlib.Data.List.TakeWhile

/-!
Every address of eight groups that is written is read back, in whichever of the three forms it is written: all its
groups, groups around `::`, or an IPv4 address behind `::ffff:`.
-/

namespace InstrumentLink.IPv6

variable {group : UInt16} {groups : List UInt16} {text rest : List Char}

/-! One group. -/

theorem readGroup?_groupText (group : UInt16) : readGroup? (groupText group) = some group := by
  have short : (groupText group).length ≤ 4 :=
    (Nat.length_toDigits_le_iff (by decide) (by decide)).mpr group.toNat_lt
  rw [readGroup?, if_pos short, groupText, readNat?_toDigits (by decide) (by decide), Option.map_some,
    UInt16.ofNat_toNat]

theorem groupText_ne_nil : groupText group ≠ [] := Nat.toDigits_ne_nil

theorem notMem_groupText {c : Char} (other : ∀ value < 16, value.digitChar ≠ c) : c ∉ groupText group := by
  intro member
  obtain ⟨value, small, isDigit⟩ := exists_digit_of_mem_toDigits (by decide) member
  exact other value small isDigit.symm

theorem colon_notMem_groupText : ':' ∉ groupText group := notMem_groupText (by decide)

theorem point_notMem_groupText : '.' ∉ groupText group := notMem_groupText (by decide)

theorem read?_v4_of_notMem (plain : '.' ∉ text) : IPv4.read? text = none := by
  rw [IPv4.read?, List.splitOn_eq_singleton plain]

/-! Groups with colons between them. -/

theorem joined_cons_cons (first second : UInt16) (others : List UInt16) :
    joined (first :: second :: others) = groupText first ++ ':' :: joined (second :: others) := by
  simp [joined, List.intercalate_cons_cons]

theorem exists_joined (group : UInt16) (groups : List UInt16) :
    ∃ behind, joined (group :: groups) = groupText group ++ behind := by
  cases groups with
  | nil => exact ⟨[], by simp [joined]⟩
  | cons second others => exact ⟨_, joined_cons_cons group second others⟩

theorem head?_joined_ne (group : UInt16) (groups : List UInt16) (rest : List Char) :
    (joined (group :: groups) ++ rest).head? ≠ some ':' := by
  obtain ⟨behind, shape⟩ := exists_joined group groups
  rw [shape, List.append_assoc, List.head?_append, Option.or_of_isSome (List.isSome_head?.mpr groupText_ne_nil)]
  intro colon
  exact colon_notMem_groupText (List.mem_of_head? colon)

theorem cut_append_of_notMem (plain : ':' ∉ text) (rest : List Char) :
    cut (text ++ rest) = (cut rest).map fun (front, back) => (text ++ front, back) := by
  induction text with
  | nil => simp
  | cons c text ih =>
    obtain ⟨other, plain⟩ := List.ne_and_not_mem_of_not_mem_cons plain
    rw [List.cons_append, cut.eq_def]
    split
    next isColon => exact absurd (List.cons.inj isColon).1.symm other
    next same =>
      cases same
      rw [ih plain, Option.map_map]
      rfl
    next same => cases same

theorem cut_colon (alone : text.head? ≠ some ':') :
    cut (':' :: text) = (cut text).map fun (front, back) => (':' :: front, back) := by
  rw [cut.eq_def]
  split
  next isColon => exact absurd (by rw [(List.cons.inj isColon).2]; rfl) alone
  next same =>
    cases same
    rfl
  next same => cases same

theorem cut_joined (groups : List UInt16) (rest : List Char) :
    cut (joined groups ++ rest) = (cut rest).map fun (front, back) => (joined groups ++ front, back) := by
  induction groups with
  | nil => simp [joined, List.intercalate_nil]
  | cons first others ih =>
    cases others with
    | nil =>
      have whole : ':' ∉ joined [first] := by simpa [joined] using colon_notMem_groupText
      exact cut_append_of_notMem whole rest
    | cons second others =>
      rw [joined_cons_cons, List.append_assoc, cut_append_of_notMem colon_notMem_groupText, List.cons_append,
        cut_colon (head?_joined_ne second others rest), ih]
      simp [Option.map_map, Function.comp_def]

theorem fields_joined (groups : List UInt16) : fields (joined groups) = groups.map groupText := by
  cases groups with
  | nil => rfl
  | cons first others =>
    have filled : (joined (first :: others)).isEmpty = false := by
      obtain ⟨behind, shape⟩ := exists_joined first others
      simp [shape, groupText_ne_nil]
    have plain : ∀ word ∈ (first :: others).map groupText, ':' ∉ word := by
      intro word member
      obtain ⟨group, -, rfl⟩ := List.mem_map.mp member
      exact colon_notMem_groupText
    rw [fields, filled, joined]
    exact List.splitOn_intercalate ':' plain (by simp)

theorem readPlain?_groups (groups : List UInt16) : readPlain? (groups.map groupText) = some groups := by
  induction groups with
  | nil => rfl
  | cons first others ih =>
    rw [readPlain?] at ih ⊢
    rw [List.map_cons, List.mapM_cons, readGroup?_groupText, ih]
    rfl

theorem readMixed?_cons {field : List Char} {others : List (List Char)} (more : others ≠ []) :
    readMixed? (field :: others) = do return (← readGroup? field) :: (← readMixed? others) := by
  cases others with
  | nil => exact absurd rfl more
  | cons second others => rfl

theorem readMixed?_groups (groups : List UInt16) : readMixed? (groups.map groupText) = some groups := by
  induction groups with
  | nil => rfl
  | cons first others ih =>
    cases others with
    | nil => simp [readMixed?, read?_v4_of_notMem point_notMem_groupText, readGroup?_groupText]
    | cons second others =>
      rw [List.map_cons, readMixed?_cons (by simp), readGroup?_groupText, ih]
      rfl

/-! Zero groups. -/

theorem longestZeros_le (groups : List UInt16) :
    (longestZeros groups).2 ≤ zerosFrom groups (longestZeros groups).1 := by
  have kept : ∀ (starts : List Nat) (best : Nat × Nat), best.2 ≤ zerosFrom groups best.1 →
      let found := starts.foldl
        (fun best start => if best.2 < zerosFrom groups start then (start, zerosFrom groups start) else best) best
      found.2 ≤ zerosFrom groups found.1 := by
    intro starts
    induction starts with
    | nil => exact fun best holds => holds
    | cons start starts ih =>
      intro best holds
      refine ih _ ?_
      dsimp only
      split
      · exact Nat.le_refl _
      · exact holds
  exact kept _ (0, 0) (Nat.zero_le _)

theorem eq_around_zeros {start length : Nat} (zeros : length ≤ zerosFrom groups start) :
    groups.take start ++ List.replicate length 0 ++ groups.drop (start + length) = groups := by
  have all : (groups.drop start).take length = List.replicate length 0 := by
    have run : (groups.drop start).take length = ((groups.drop start).takeWhile (· = 0)).take length := by
      conv_lhs => rw [← List.takeWhile_append_dropWhile (p := fun group => decide (group = 0)) (l := groups.drop start)]
      exact List.take_append_of_le_length zeros
    rw [run]
    refine List.eq_replicate_iff.mpr ⟨List.length_take_of_le zeros, fun group member => ?_⟩
    have zero := List.mem_takeWhile_imp (List.mem_of_mem_take member)
    exact of_decide_eq_true zero
  rw [← all, ← List.take_add, List.take_append_drop]

/-! The three forms. -/

inductive Form (ip : IPv6) : Prop where
  | mapped (high low : UInt16) (groups : ip.groups = [0, 0, 0, 0, 0, 0xffff, high, low])
    (written : ip.chars = "::ffff:".toList ++ (embedded high low).chars)
  | around (start length : Nat) (some : 1 < length) (zeros : length ≤ zerosFrom ip.groups start)
    (written : ip.chars = joined (ip.groups.take start) ++ "::".toList ++ joined (ip.groups.drop (start + length)))
  | whole (written : ip.chars = joined ip.groups)

theorem form (ip : IPv6) : ip.Form := by
  cases shown : ip.mapped? with
  | some inner =>
    have isMapped := shown
    unfold mapped? at isMapped
    split at isMapped
    next high low groups =>
      cases isMapped
      exact .mapped high low groups (by rw [chars, shown])
    next => cases isMapped
  | none =>
    have written : ip.chars = if 1 < (longestZeros ip.groups).2 then
        joined (ip.groups.take (longestZeros ip.groups).1) ++ "::".toList ++
          joined (ip.groups.drop ((longestZeros ip.groups).1 + (longestZeros ip.groups).2))
      else joined ip.groups := by
      rw [chars, shown]
    split at written
    next some => exact .around _ _ some (longestZeros_le ip.groups) written
    next => exact .whole written

theorem groupsOf_embedded (high low : UInt16) : groupsOf (embedded high low) = [high, low] := by
  have whole : ∀ group : UInt16,
      UInt16.ofNat ((UInt8.ofNat (group.toNat / 256)).toNat * 256 + (UInt8.ofNat group.toNat).toNat) = group := by
    intro group
    have small := group.toNat_lt
    apply UInt16.toNat_inj.mp
    simp only [UInt16.toNat_ofNat', UInt8.toNat_ofNat']
    omega
  rw [groupsOf, embedded, whole, whole]

theorem ofGroups?_groups (ip : IPv6) : ofGroups? ip.groups = some ip := by
  rw [ofGroups?, dif_pos ip.length_eq]

theorem readMixed?_mapped (inner : IPv4) :
    readMixed? (fields ("ffff:".toList ++ inner.chars)) = some (0xffff :: groupsOf inner) := by
  have shape : "ffff:".toList ++ inner.chars = "ffff".toList ++ ':' :: inner.chars := rfl
  have split : fields ("ffff".toList ++ ':' :: inner.chars) = ["ffff".toList, inner.chars] := by
    change List.splitOn ':' _ = _
    rw [List.splitOn_append_cons_self_of_not_mem (by decide), List.splitOn_eq_singleton inner.colon_notMem_chars]
  have first : readGroup? "ffff".toList = some 0xffff := by decide
  rw [shape, split, readMixed?_cons (by simp), first, readMixed?, IPv4.read?_eq_some_iff.mpr rfl]
  rfl

theorem read?_chars (ip : IPv6) : read? ip.chars = some ip := by
  cases ip.form with
  | mapped high low groups written =>
    have whole := ofGroups?_groups ip
    rw [groups] at whole
    have cuts : cut ("::ffff:".toList ++ (embedded high low).chars) =
        some ([], "ffff:".toList ++ (embedded high low).chars) := rfl
    rw [written, read?, cuts]
    dsimp only
    rw [readMixed?_mapped, groupsOf_embedded]
    exact whole
  | around start length some zeros written =>
    have cuts : cut (joined (ip.groups.take start) ++ "::".toList ++ joined (ip.groups.drop (start + length))) =
        .some (joined (ip.groups.take start), joined (ip.groups.drop (start + length))) := by
      rw [List.append_assoc, cut_joined]
      simp [cut]
    have whole := eq_around_zeros zeros
    have lengths := congrArg List.length whole
    simp only [List.length_append, List.length_replicate, ip.length_eq] at lengths
    have missing : 8 - (ip.groups.take start).length - (ip.groups.drop (start + length)).length = length := by omega
    rw [written, read?, cuts]
    simp only [fields_joined, readPlain?_groups, readMixed?_groups, Option.bind_eq_bind, Option.bind_some, missing,
      whole, ofGroups?_groups]
    exact if_pos (by omega)
  | whole written =>
    have cuts : cut (joined ip.groups) = none := by simpa [cut] using cut_joined ip.groups []
    rw [written, read?, cuts]
    dsimp only
    rw [fields_joined, readMixed?_groups, Option.bind_some, ofGroups?_groups]

/-- Of two runs of zero groups of one length, the first is left out. -/
example : (⟨[0x2001, 0xdb8, 0, 0, 1, 0, 0, 1], rfl⟩ : IPv6).text = "2001:db8::1:0:0:1" := by decide

theorem colon_mem_chars (ip : IPv6) : ':' ∈ ip.chars := by
  cases ip.form with
  | mapped high low groups written => simp [written]
  | around start length some zeros written => simp [written]
  | whole written =>
    obtain ⟨groups, length_eq⟩ := ip
    match groups, length_eq with
    | first :: second :: others, _ => simp [written, joined_cons_cons]

theorem read?_of_colon_notMem (plain : ':' ∉ text) : read? text = none := by
  have cuts : cut text = none := by simpa [cut] using cut_append_of_notMem plain []
  have few : ∀ {groups}, readMixed? (fields text) = some groups → groups.length ≠ 8 := by
    intro groups read
    rw [fields, List.splitOn_eq_singleton plain] at read
    split at read
    · cases read
      decide
    · rcases Option.or_eq_some_iff.mp read with isV4 | ⟨-, isGroup⟩
      · obtain ⟨inner, -, rfl⟩ := Option.map_eq_some_iff.mp isV4
        simp [groupsOf]
      · obtain ⟨group, -, rfl⟩ := Option.map_eq_some_iff.mp isGroup
        simp
  rw [read?, cuts]
  refine Option.eq_none_iff_forall_ne_some.mpr fun ip read => ?_
  obtain ⟨groups, mixed, eight⟩ := Option.bind_eq_some_iff.mp read
  unfold ofGroups? at eight
  split at eight
  next isEight => exact few mixed isEight
  next => cases eight

end InstrumentLink.IPv6
