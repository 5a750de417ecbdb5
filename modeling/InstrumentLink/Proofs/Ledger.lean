import InstrumentLink.Proofs.Network.Ownership
import InstrumentLink.World
import Mathlib.Data.List.Induction

/-!
The journal read as a ledger: each thing that the agent has opened or taken and not closed since, with the deed that
it came from.
-/

namespace InstrumentLink

/-- A thing of the agent's, by its number. -/
inductive Asset where
  | socket (id : SocketId)
  | line (id : Nat)
  deriving DecidableEq, Repr

def Asset.closing : Asset → Deed
  | socket id => .close id
  | line id => .closeLine id

/-- How a thing is given up. A socket may be shut down before it is closed. -/
structure Parting where
  asset : Asset
  ways : Option Ways
  deriving DecidableEq, Repr

def Parting.deeds (parting : Parting) : List Deed :=
  match parting.asset with
  | .socket id => (parting.ways.map (.shutdown id)).toList ++ [.close id]
  | .line id => [.closeLine id]

theorem Parting.closing_mem_deeds (parting : Parting) : parting.asset.closing ∈ parting.deeds := by
  obtain ⟨id | id, ways⟩ := parting
  · exact List.mem_append_right _ (List.mem_singleton.mpr rfl)
  · exact List.mem_singleton.mpr rfl

theorem Parting.deed_cases {parting : Parting} {deed : Deed} (member : deed ∈ parting.deeds) :
    (∃ id ways, deed = .shutdown id ways ∧ parting.asset = .socket id) ∨
      (∃ id, deed = .close id ∧ parting.asset = .socket id) ∨
      ∃ id, deed = .closeLine id ∧ parting.asset = .line id := by
  obtain ⟨id | id, ways⟩ := parting
  · rcases List.mem_append.mp member with shut | closed
    · obtain ⟨ways, _, rfl⟩ := List.mem_map.mp (Option.toList_map .. ▸ shut)
      exact .inl ⟨id, ways, rfl, rfl⟩
    · exact .inr (.inl ⟨id, List.mem_singleton.mp closed, rfl⟩)
  · exact .inr (.inr ⟨id, List.mem_singleton.mp member, rfl⟩)

def Parting.peer (id : SocketId) : Parting := ⟨.socket id, some .both⟩

namespace Deed

def made? : Deed → Option Asset
  | listen _ made => made.map .socket
  | connect _ made => made.map .socket
  | associate _ made => made.map .socket
  | accept _ taken => some (.socket taken)
  | openLine _ _ made => made.map .line
  | shutdown _ _ => none
  | close _ => none
  | closeLine _ => none

def closed? : Deed → Option Asset
  | close id => some (.socket id)
  | closeLine id => some (.line id)
  | _ => none

/-- What a deed shuts down or closes. -/
def ended? : Deed → Option Asset
  | shutdown id _ => some (.socket id)
  | close id => some (.socket id)
  | closeLine id => some (.line id)
  | _ => none

def Explains : Deed → Purpose → Prop
  | listen address _, purpose => purpose = .listening address
  | connect remote _, purpose => purpose = .stream remote
  | associate remote _, purpose => purpose = .datagram remote
  | accept _ _, purpose => ∃ remote, purpose = .stream remote
  | openLine path baudRate _, purpose => purpose = .line path baudRate
  | shutdown _ _, _ => False
  | close _, _ => False
  | closeLine _, _ => False

def enter (ledger : Asset → Option Deed) (deed : Deed) : Asset → Option Deed := fun asset =>
  if deed.made? = some asset then some deed
  else if deed.closed? = some asset then none
  else ledger asset

end Deed

/-- For each thing that was opened or taken and is not closed the deed that it came from. -/
def ledger (journal : List Deed) : Asset → Option Deed := journal.foldl Deed.enter fun _ => none

/-- A thing was opened or taken, and has not been closed since. -/
def StillOpen (journal : List Deed) (asset : Asset) : Prop :=
  ∃ before deed after, journal = before ++ deed :: after ∧ deed.made? = some asset ∧
    ∀ later ∈ after, later.closed? ≠ some asset

theorem ledger_append (journal : List Deed) (deed : Deed) :
    ledger (journal ++ [deed]) = Deed.enter (ledger journal) deed := by
  simp [ledger]

theorem ledger_parting (journal : List Deed) (parting : Parting) (asset : Asset) :
    ledger (journal ++ parting.deeds) asset = if parting.asset = asset then none else ledger journal asset := by
  obtain ⟨gone | id, ways⟩ := parting
  · have closed : ∀ journal, ledger (journal ++ [.close gone]) asset =
        if Asset.socket gone = asset then none else ledger journal asset := by
      intro journal
      rw [ledger_append]
      simp [Deed.enter, Deed.made?, Deed.closed?]
    cases ways with
    | none => exact closed journal
    | some ways =>
      have shut : ledger (journal ++ [.shutdown gone ways]) = ledger journal := by
        rw [ledger_append]
        funext asset
        simp [Deed.enter, Deed.made?, Deed.closed?]
      change ledger (journal ++ ([.shutdown gone ways] ++ [.close gone])) asset = _
      rw [← List.append_assoc, closed, shut]
  · change ledger (journal ++ [.closeLine id]) asset = _
    rw [ledger_append]
    simp [Deed.enter, Deed.made?, Deed.closed?]

theorem ledger_partings (journal : List Deed) (gone : List Parting) (asset : Asset) :
    ledger (journal ++ gone.flatMap Parting.deeds) asset =
      if asset ∈ gone.map Parting.asset then none else ledger journal asset := by
  induction gone generalizing journal with
  | nil => simp
  | cons first rest ih =>
    rw [List.flatMap_cons, ← List.append_assoc, ih, ledger_parting]
    by_cases later : asset ∈ rest.map Parting.asset
    · simp [later]
    · by_cases same : first.asset = asset
      · simp [same]
      · have kept : asset ∉ (first :: rest).map Parting.asset := List.not_mem_cons_of_ne_of_not_mem (Ne.symm same) later
        rw [if_neg later, if_neg same, if_neg kept]

theorem stillOpen_iff (journal : List Deed) (asset : Asset) :
    StillOpen journal asset ↔ (ledger journal asset).isSome := by
  induction journal using List.reverseRecOn with
  | nil =>
    constructor
    · rintro ⟨before, deed, after, split, _⟩
      simp at split
    · intro shown
      cases shown
  | append_singleton journal last ih =>
    rw [ledger_append, Deed.enter]
    constructor
    · rintro ⟨before, deed, after, split, made, kept⟩
      rcases after.eq_nil_or_concat with rfl | ⟨earlier, final, rfl⟩
      · have same : last = deed := by simpa using (List.append_inj' split rfl).2
        rw [same, if_pos made]
        rfl
      · have parts : journal = before ++ deed :: earlier ∧ last = final := by
          have joined : journal ++ [last] = (before ++ deed :: earlier) ++ [final] := by simpa using split
          have inj := List.append_inj' joined rfl
          exact ⟨inj.1, by simpa using inj.2⟩
        obtain ⟨rfl, rfl⟩ := parts
        split
        · rfl
        · rw [if_neg (kept last (by simp))]
          exact ih.mp ⟨before, deed, earlier, rfl, made, fun later member => kept later (by simp [member])⟩
    · intro shown
      split at shown
      next made => exact ⟨journal, last, [], rfl, made, by simp⟩
      · split at shown
        · cases shown
        next kept =>
          obtain ⟨before, deed, after, rfl, made, keptBefore⟩ := ih.mpr shown
          refine ⟨before, deed, after ++ [last], by simp, made, fun later member => ?_⟩
          rcases List.mem_append.mp member with earlier | final
          · exact keptBefore later earlier
          · rwa [List.mem_singleton.mp final]

/-- What the ledger shows of a thing was noted at some time, and the thing has not been closed since. -/
theorem exists_of_ledger {journal : List Deed} {asset : Asset} {deed : Deed} (shown : ledger journal asset = some deed) :
    ∃ before after, journal = before ++ deed :: after ∧ ∀ later ∈ after, later.closed? ≠ some asset := by
  induction journal using List.reverseRecOn with
  | nil => cases shown
  | append_singleton journal last ih =>
    rw [ledger_append, Deed.enter] at shown
    split at shown
    next made =>
      cases shown
      exact ⟨journal, [], rfl, by simp⟩
    · split at shown
      · cases shown
      next kept =>
        obtain ⟨before, after, rfl, keptBefore⟩ := ih shown
        refine ⟨before, after ++ [last], by simp, ?_⟩
        intro later member
        rcases List.mem_append.mp member with earlier | final
        · exact keptBefore later earlier
        · rwa [List.mem_singleton.mp final]

/-- How a thing that came from a deed is to be shut down: one way if it was dialled, both ways if it was taken. -/
def Deed.ways? : Deed → Option Ways
  | connect _ _ => some .sending
  | accept _ _ => some .both
  | _ => none

/-- Everything in a journal is got while it is not held, and given up while it is, in one go: shut down as it has to be,
and closed right after. Nothing else is shut down or closed. -/
inductive Tidy : List Deed → Prop
  | nil : Tidy []
  | get {journal : List Deed} {deed : Deed} (tidy : Tidy journal) (keeps : deed.ended? = none)
      (new : ∀ asset, deed.made? = some asset → ledger journal asset = none) : Tidy (journal ++ [deed])
  | give {journal : List Deed} {asset : Asset} {deed : Deed} (tidy : Tidy journal)
      (held : ledger journal asset = some deed) : Tidy (journal ++ Parting.deeds ⟨asset, deed.ways?⟩)

def Parting.Right (journal : List Deed) (parting : Parting) : Prop :=
  ∃ deed, ledger journal parting.asset = some deed ∧ parting.ways = deed.ways?

theorem Tidy.partings {journal : List Deed} (tidy : Tidy journal) {gone : List Parting}
    (once : (gone.map Parting.asset).Nodup) (right : ∀ parting ∈ gone, parting.Right journal) :
    Tidy (journal ++ gone.flatMap Parting.deeds) := by
  induction gone generalizing journal with
  | nil => rwa [List.flatMap_nil, List.append_nil]
  | cons first rest ih =>
    obtain ⟨apart, onceRest⟩ := List.nodup_cons.mp once
    obtain ⟨deed, held, ways⟩ := right first List.mem_cons_self
    have given : Tidy (journal ++ first.deeds) := by
      obtain ⟨asset, _⟩ := first
      cases ways
      exact tidy.give held
    rw [List.flatMap_cons, ← List.append_assoc]
    refine ih given onceRest fun parting member => ?_
    obtain ⟨deed, held, ways⟩ := right parting (List.mem_cons_of_mem first member)
    have different : first.asset ≠ parting.asset := fun same => apart (same ▸ List.mem_map_of_mem member)
    exact ⟨deed, by rw [ledger_parting, if_neg different, held], ways⟩

end InstrumentLink
