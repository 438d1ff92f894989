import ClusterManifest.Proofs.Lists
import ClusterManifest.Proofs.Network.V4

/-! Addresses of version 6: the text of one is read as it, whichever run of zeros it leaves out,
and what is read as one has eight groups of sixteen bits. -/

namespace ClusterManifest.Network.Address

open Text

def Part.text : Part → List Char
  | .gap => []
  | .group n => groupText n

def Part.Fits : Part → Prop
  | .gap => True
  | .group n => n < 65536

theorem hexDigit_digitChar : ∀ m < 16, hexDigit? (Nat.digitChar m) = some m := by decide

theorem part_groupText {n : Nat} (small : n < 65536) : part? (groupText n) = some (.group n) := by
  have short : (groupText n).length ≤ 4 :=
    (Nat.length_toDigits_le_iff (by decide) (by decide)).mpr small
  have nonempty : (groupText n).isEmpty = false := by
    rw [List.isEmpty_eq_false_iff]
    exact Nat.toDigits_ne_nil
  have digits : ∀ c ∈ groupText n, hexDigit? c = some ((hexDigit? c).getD 0) := by
    intro c within
    obtain ⟨m, below, rfl⟩ := mem_toDigits (by decide) within
    rw [hexDigit_digitChar m below]
    rfl
  have worth : ofDigits 16 ((groupText n).map (fun c => (hexDigit? c).getD 0)) = n :=
    ofDigits_toDigits (by decide) (by decide) n
  simp only [part?, nonempty, Nat.not_lt.mpr short, mapM_of_all digits, Option.map_some, worth]
  rfl

theorem part_text {part : Part} (fits : part.Fits) : part? part.text = some part := by
  cases part with
  | gap => rfl
  | group n => exact part_groupText fits

theorem notMem_text {c : Char} {part : Part} (other : hexDigit? c = none) : c ∉ part.text := by
  intro within
  cases part with
  | gap => cases within
  | group n =>
    obtain ⟨m, below, rfl⟩ := mem_toDigits (by decide) within
    rw [hexDigit_digitChar m below] at other
    cases other

theorem parts_texts {parts : List Part} (fit : ∀ part ∈ parts, part.Fits) :
    parts? (parts.map Part.text) = some parts := by
  induction parts with
  | nil => rfl
  | cons part parts ih =>
    have first := part_text (fit part (List.mem_cons_self ..))
    have more := ih (fun q hq => fit q (List.mem_cons_of_mem _ hq))
    cases parts with
    | nil =>
      have whole : part.text.contains '.' = false := by
        simpa using notMem_text (c := '.') rfl
      simp only [List.map_cons, List.map_nil, parts?, whole, first]
      rfl
    | cons q qs =>
      simp only [List.map_cons] at more ⊢
      simp only [parts?, first, more]
      rfl

def side (groups : List Nat) : List Part :=
  if groups = [] then [.gap] else groups.map .group

theorem groups_of_groups (groups : List Nat) : groups? (groups.map .group) = some groups := by
  rw [groups?, List.mapM_map]
  exact (mapM_of_all (g := id) (fun _ _ => rfl)).trans (by rw [List.map_id])

theorem side_side (groups : List Nat) : side? (side groups) = some groups := by
  unfold side? side
  cases groups with
  | nil => rfl
  | cons g groups =>
    have other : (g :: groups).map Part.group ≠ [.gap] := by simp
    rw [if_neg (List.cons_ne_nil _ _), if_neg other]
    exact groups_of_groups _

theorem side_cons (groups : List Nat) :
    ∃ first rest, side groups = first :: rest ∧ ∀ part ∈ rest, part.isGroup = true := by
  cases groups with
  | nil => exact ⟨.gap, [], rfl, by simp⟩
  | cons g groups => exact ⟨.group g, groups.map .group, rfl, by simp [Part.isGroup]⟩

/-- The groups on both sides of a double colon, with the zeros between them. -/
theorem allGroups_around {high low : List Nat} (short : high.length + low.length < 8) :
    allGroups? (side high ++ .gap :: side low) =
      some (high ++ List.replicate (8 - (high.length + low.length)) 0 ++ low) := by
  obtain ⟨first, rest, same, groups⟩ := side_cons high
  have after : (side low).isEmpty = false := by
    obtain ⟨f, r, lower, -⟩ := side_cons low
    rw [lower]
    rfl
  have sides : side? (first :: rest) = some high := by rw [← same, side_side]
  have dropped : (rest ++ .gap :: side low).dropWhile Part.isGroup = .gap :: side low := by
    rw [List.dropWhile_append_of_pos groups]
    rfl
  have taken : (rest ++ .gap :: side low).takeWhile Part.isGroup = rest := by
    rw [List.takeWhile_append_of_pos groups]
    simp [Part.isGroup]
  rw [same, List.cons_append]
  simp only [allGroups?, dropped, taken, after, sides, side_side]
  simp [short]

theorem allGroups_whole {groups : List Nat} (eight : groups.length = 8) :
    allGroups? (groups.map .group) = some groups := by
  cases groups with
  | nil => cases eight
  | cons g groups =>
    have dropped : (groups.map Part.group).dropWhile Part.isGroup = [] := by
      rw [← List.append_nil (groups.map Part.group),
        List.dropWhile_append_of_pos (by simp [Part.isGroup])]
      rfl
    have all := groups_of_groups (g :: groups)
    rw [List.map_cons] at all ⊢
    simp only [allGroups?, dropped, all]
    simpa using eight

theorem zerosAtStart_spec (groups : List Nat) :
    groups.take (zerosAtStart groups) = List.replicate (zerosAtStart groups) 0 := by
  unfold zerosAtStart
  induction groups with
  | nil => rfl
  | cons g groups ih =>
    by_cases zero : g = 0
    · subst zero
      simpa [List.replicate_succ] using ih
    · simp [zero]

theorem longestZeros_spec (groups : List Nat) :
    (groups.drop (longestZeros groups).1).take (longestZeros groups).2 =
      List.replicate (longestZeros groups).2 0 := by
  unfold longestZeros
  generalize List.range groups.length = starts
  have keeps : ∀ best : Nat × Nat,
      (groups.drop best.1).take best.2 = List.replicate best.2 0 →
      let found := starts.foldl (fun best start =>
        let length := zerosAtStart (groups.drop start)
        if best.2 < length then (start, length) else best) best
      (groups.drop found.1).take found.2 = List.replicate found.2 0 := by
    induction starts with
    | nil => exact fun _ run => run
    | cons start starts ih =>
      intro best run
      rw [List.foldl_cons]
      apply ih
      dsimp only
      split
      · exact zerosAtStart_spec _
      · exact run
  exact keeps (0, 0) rfl

/-- The parts that an address is written in: all groups, or those on both sides of its longest
run of zeros. -/
def writtenParts (n : Nat) : List Part :=
  let groups := groupsOf n
  let run := longestZeros groups
  if run.2 < 2 then groups.map .group
  else side (groups.take run.1) ++ .gap :: side (groups.drop (run.1 + run.2))

theorem joinWith_side (groups : List Nat) :
    joinWith [':'] ((side groups).map Part.text) = joinWith [':'] (groups.map groupText) := by
  cases groups with
  | nil => rfl
  | cons g groups =>
    rw [side, if_neg (List.cons_ne_nil _ _), List.map_map]
    rfl

theorem v6Text_parts (n : Nat) :
    v6Text n = joinWith [':'] ((writtenParts n).map Part.text) := by
  have nonempty : ∀ groups, (side groups).map Part.text ≠ [] := by
    intro groups
    obtain ⟨first, rest, same, -⟩ := side_cons groups
    simp [same]
  unfold v6Text writtenParts
  dsimp only
  split
  · rw [List.map_map]
    rfl
  · rw [List.map_append, List.map_cons, joinWith_append (nonempty _) (List.cons_ne_nil _ _),
      joinWith_cons (nonempty _), joinWith_side, joinWith_side]
    simp [Part.text]

theorem groupsOf_lt {n g : Nat} (among : g ∈ groupsOf n) : g < 65536 := by
  obtain ⟨k, -, rfl⟩ := List.mem_map.mp among
  exact Nat.mod_lt _ (by decide)

theorem side_fits {groups : List Nat} (small : ∀ g ∈ groups, g < 65536) :
    ∀ part ∈ side groups, part.Fits := by
  intro part among
  unfold side at among
  split at among
  · rw [List.mem_singleton] at among
    subst among
    trivial
  · obtain ⟨g, within, rfl⟩ := List.mem_map.mp among
    exact small g within

theorem writtenParts_fit {n : Nat} {part : Part} (among : part ∈ writtenParts n) :
    part.Fits := by
  unfold writtenParts at among
  dsimp only at among
  split at among
  · obtain ⟨g, within, rfl⟩ := List.mem_map.mp among
    exact groupsOf_lt within
  · rcases List.mem_append.mp among with high | rest
    · exact side_fits (fun g hg => groupsOf_lt (List.mem_of_mem_take hg)) part high
    · rcases List.mem_cons.mp rest with rfl | low
      · trivial
      · exact side_fits (fun g hg => groupsOf_lt (List.mem_of_mem_drop hg)) part low

theorem allGroups_writtenParts (n : Nat) : allGroups? (writtenParts n) = some (groupsOf n) := by
  have eight : (groupsOf n).length = 8 := rfl
  unfold writtenParts
  dsimp only
  split
  · exact allGroups_whole eight
  · next long =>
    have zeros := longestZeros_spec (groupsOf n)
    generalize longestZeros (groupsOf n) = run at long zeros
    have inside : run.1 + run.2 ≤ 8 := by
      have same := congrArg List.length zeros
      simp only [List.length_take, List.length_drop, List.length_replicate, eight] at same
      omega
    have high : ((groupsOf n).take run.1).length = run.1 := by
      rw [List.length_take, eight]
      omega
    have low : ((groupsOf n).drop (run.1 + run.2)).length = 8 - (run.1 + run.2) := by
      rw [List.length_drop, eight]
    have filled : 8 - (run.1 + (8 - (run.1 + run.2))) = run.2 := by omega
    rw [allGroups_around (by omega), high, low, filled, ← zeros, List.append_assoc,
      ← List.drop_drop, List.take_append_drop, List.take_append_drop]

theorem ofDigits_groupsOf {n : Nat} (small : n < Nat.pow 2 128) :
    ofDigits 65536 (groupsOf n) = n := by
  change ofDigits 65536 [n >>> 112 % 65536, n >>> 96 % 65536, n >>> 80 % 65536, n >>> 64 % 65536,
    n >>> 48 % 65536, n >>> 32 % 65536, n >>> 16 % 65536, n >>> 0 % 65536] = n
  simp only [ofDigits, List.foldl_cons, List.foldl_nil]
  rw [Nat.pow_eq] at small
  omega

theorem splitAtChar_v6Text (n : Nat) :
    splitAtChar ':' (v6Text n) = (writtenParts n).map Part.text := by
  rw [v6Text_parts]
  refine splitAtChar_joinWith ?_ ?_
  · have some := allGroups_writtenParts n
    intro none
    rw [List.map_eq_nil_iff.mp none] at some
    cases some
  · intro piece among
    obtain ⟨part, -, rfl⟩ := List.mem_map.mp among
    exact notMem_text rfl

theorem v6_v6Text {n : Nat} (small : n < Nat.pow 2 128) : v6? (v6Text n) = some n := by
  have fit : ∀ part ∈ writtenParts n, part.Fits := fun _ => writtenParts_fit
  have parts := parts_texts fit
  simp only [v6?, splitAtChar_v6Text, parts, bind, Option.bind, allGroups_writtenParts,
    ofDigits_groupsOf small]

theorem hexDigit_lt {c : Char} {n : Nat} (digit : hexDigit? c = some n) : n < 16 := by
  unfold hexDigit? at digit
  dsimp only at digit
  split at digit
  · next low =>
    simp only [Bool.and_eq_true, decide_eq_true_eq] at low
    cases digit
    omega
  · split at digit
    · next lower =>
      simp only [Bool.and_eq_true, decide_eq_true_eq] at lower
      cases digit
      omega
    · split at digit
      · next upper =>
        simp only [Bool.and_eq_true, decide_eq_true_eq] at upper
        cases digit
        omega
      · cases digit

theorem part_fits {s : List Char} {part : Part} (read : part? s = some part) : part.Fits := by
  unfold part? at read
  split at read
  · cases read
    trivial
  · split at read
    · cases read
    · next short =>
      obtain ⟨digits, all, rfl⟩ := Option.map_eq_some_iff.mp read
      have each : ∀ d ∈ digits, d < 16 := by
        intro d among
        obtain ⟨c, -, digit⟩ := mem_of_mapM all among
        exact hexDigit_lt digit
      have below := ofDigits_lt each
      have few : digits.length ≤ 4 := by
        rw [length_of_mapM all]
        exact Nat.not_lt.mp short
      exact Nat.lt_of_lt_of_le below (Nat.pow_le_pow_right (by decide) few)

theorem parts_fit {pieces : List (List Char)} {parts : List Part}
    (read : parts? pieces = some parts) : ∀ part ∈ parts, part.Fits := by
  induction pieces generalizing parts with
  | nil =>
    cases read
    exact fun _ among => nomatch among
  | cons piece pieces ih =>
    cases pieces with
    | nil =>
      simp only [parts?] at read
      split at read
      · obtain ⟨n, tail, rfl⟩ := Option.map_eq_some_iff.mp read
        have small := v4_lt tail
        intro part among
        simp only [List.mem_cons, List.not_mem_nil, or_false] at among
        rcases among with rfl | rfl
        · exact Nat.div_lt_of_lt_mul small
        · exact Nat.mod_lt _ (by decide)
      · obtain ⟨last, one, rfl⟩ := Option.map_eq_some_iff.mp read
        intro part among
        rw [List.mem_singleton] at among
        subst among
        exact part_fits one
    | cons next pieces =>
      simp only [parts?] at read
      obtain ⟨first, one, more⟩ := Option.bind_eq_some_iff.mp read
      obtain ⟨rest, others, made⟩ := Option.bind_eq_some_iff.mp more
      cases made
      intro part among
      rcases List.mem_cons.mp among with rfl | later
      · exact part_fits one
      · exact ih others part later

theorem groups_some {parts : List Part} {groups : List Nat} (read : groups? parts = some groups)
    (fit : ∀ part ∈ parts, part.Fits) : ∀ g ∈ groups, g < 65536 := by
  intro g among
  obtain ⟨part, within, same⟩ := mem_of_mapM read among
  have fits := fit part within
  cases part with
  | gap => cases same
  | group n =>
    cases same
    exact fits

theorem side_some {parts : List Part} {groups : List Nat} (read : side? parts = some groups)
    (fit : ∀ part ∈ parts, part.Fits) : ∀ g ∈ groups, g < 65536 := by
  unfold side? at read
  split at read
  · cases read
    exact fun _ among => nomatch among
  · exact groups_some read fit

theorem allGroups_some {parts : List Part} {groups : List Nat}
    (read : allGroups? parts = some groups) (fit : ∀ part ∈ parts, part.Fits) :
    groups.length = 8 ∧ ∀ g ∈ groups, g < 65536 := by
  unfold allGroups? at read
  split at read
  · cases read
  · next first rest =>
    split at read
    · obtain ⟨whole, eight⟩ := Option.filter_eq_some_iff.mp read
      exact ⟨by simpa using eight, groups_some whole fit⟩
    · next _ after cut =>
      split at read
      · cases read
      · obtain ⟨high, one, more⟩ := Option.bind_eq_some_iff.mp read
        obtain ⟨low, other, made⟩ := Option.bind_eq_some_iff.mp more
        split at made
        · next short =>
          cases made
          have before : ∀ part ∈ first :: rest.takeWhile Part.isGroup, part.Fits := by
            intro part among
            rcases List.mem_cons.mp among with rfl | later
            · exact fit _ (List.mem_cons_self ..)
            · exact fit part (List.mem_cons_of_mem _ ((List.takeWhile_prefix _).subset later))
          have behind : ∀ part ∈ after, part.Fits := by
            intro part among
            have within : part ∈ rest.dropWhile Part.isGroup := by
              rw [cut]
              exact List.mem_cons_of_mem _ among
            exact fit part (List.mem_cons_of_mem _ ((List.dropWhile_suffix _).mem within))
          refine ⟨?_, ?_⟩
          · simp only [List.length_append, List.length_replicate]
            omega
          · intro g among
            simp only [List.mem_append, List.mem_replicate] at among
            rcases among with (front | zero) | back
            · exact side_some one before g front
            · omega
            · exact side_some other behind g back
        · cases made

theorem v6_lt {s : List Char} {n : Nat} (read : v6? s = some n) : n < Nat.pow 2 128 := by
  obtain ⟨parts, one, more⟩ := Option.bind_eq_some_iff.mp read
  obtain ⟨groups, all, made⟩ := Option.bind_eq_some_iff.mp more
  cases made
  obtain ⟨eight, small⟩ := allGroups_some all (parts_fit one)
  have below := ofDigits_lt small
  rw [eight] at below
  exact below

end ClusterManifest.Network.Address
