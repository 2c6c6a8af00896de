import Restage.Proofs.Floor.Posts

/-!
# The account of a tracker

An `Account` is what submissions to a job can depend on: the fatal failure, and under every slot the
slice that was admitted and the state it came to last. It knows nothing of owners, queues, causes
and tokens.

`Floor.account?` reads it off the floor. Each change of the floor does to the account of its tracker
what the name of the change says: `Account.enter` when a slice is admitted, reopened or ends alone,
`Account.doom` when a fatal failure is recorded. Accounts of other trackers stay.
-/

namespace Restage

structure Account where
  fatal : Option FatalFailure
  /-- The slice under a slot, with its last state. -/
  entries : Slot → Option (SliceRef × SliceState)

namespace Account

/-- The account of a job that nothing was admitted to. -/
def empty : Account := ⟨none, fun _ => none⟩

/-- Notes a state under a slot. -/
def enter (account : Account) (slot : Slot) (i : SliceRef) (state : SliceState) : Account :=
  { account with
    entries := fun other => if other = slot then some (i, state) else account.entries other }

/-- Notes a fatal failure of the slice under a slot. -/
def doom (account : Account) (slot : Slot) (i : SliceRef) (f : FatalFailure) : Account where
  fatal := some f
  entries := fun other =>
    if other = slot then some (i, .failed)
    else (account.entries other).map fun (j, state) => (j, state.onCancel)

/-- Notes an outcome that is told of a slice. It counts only for the slice that is in the account,
and only while that is PENDING. -/
def ended (account : Account) (slot : Slot) (i : SliceRef) (outcome : Outcome) (serial : Nat) :
    Account :=
  if account.entries slot = some (i, .pending) then
    match outcome with
    | .success => account.enter slot i .completed
    | .retriable _ => account.enter slot i .failed
    | .fatal detail => account.doom slot i ⟨serial, detail⟩
  else account

theorem ended_of_ignored {account : Account} {slot : Slot} {i : SliceRef} {outcome : Outcome}
    {serial : Nat} (ignored : account.entries slot ≠ some (i, .pending)) :
    account.ended slot i outcome serial = account := by
  unfold Account.ended
  exact if_neg ignored

end Account

namespace Floor

/-- The slice of a tracker under a slot, with its state. -/
def noted? (floor : Floor) (k : Tracker) (slot : Slot) : Option (SliceRef × SliceState) :=
  (k.members.lookup slot).bind fun i => (floor.stateOf? i).map fun state => (i, state)

def accountOf (floor : Floor) (k : Tracker) : Account := ⟨k.fatal, floor.noted? k⟩

/-- The account of a tracker. -/
def account? (floor : Floor) (t : TrackerRef) : Option Account :=
  (floor.trackers[t]?).map floor.accountOf

/-- Whether a slice was ever bound to a tracker. -/
def isBound (floor : Floor) (i : SliceRef) : Bool := (floor.slices[i]?).any fun s => s.owner.isSome

end Floor

variable {floor next : Floor} {t u : TrackerRef} {k k' : Tracker} {i : SliceRef} {s : Slice}

theorem Floor.account?_of (found : floor.trackers[t]? = some k) :
    floor.account? t = some (floor.accountOf k) := by
  rw [Floor.account?, found, Option.map_some]

theorem Floor.noted?_of_lookup {slot : Slot} (member : k.members.lookup slot = some i)
    (here : floor.slices[i]? = some s) : floor.noted? k slot = some (i, s.state) := by
  rw [Floor.noted?, member, Option.bind_some, Floor.stateOf?, here]
  rfl

theorem Floor.noted?_of_absent {slot : Slot} (new : k.members.lookup slot = none) :
    floor.noted? k slot = none := by
  rw [Floor.noted?, new, Option.bind_none]

/-- Each slice of a tracker is in its account, under its own slot. -/
theorem Floor.Sound.noted?_of_owner (sound : floor.Sound) (found : floor.trackers[t]? = some k)
    (here : floor.slices[i]? = some s) (owner : s.owner = some t) :
    floor.noted? k s.slot = some (i, s.state) := by
  obtain ⟨member, -⟩ := sound.owned here owner found
  exact Floor.noted?_of_lookup (Table.lookup_of_mem (sound.slots found) member) here

/-- What an account says under a slot is a slice of the tracker with that slot. -/
theorem Floor.Sound.of_noted? (sound : floor.Sound) (found : floor.trackers[t]? = some k)
    {slot : Slot} {state : SliceState} (entry : floor.noted? k slot = some (i, state)) :
    ∃ s, floor.slices[i]? = some s ∧ s.owner = some t ∧ s.slot = slot ∧ s.state = state ∧
      k.members.lookup slot = some i := by
  obtain ⟨j, member, listed⟩ := Option.bind_eq_some_iff.mp entry
  obtain ⟨state', known, same⟩ := Option.map_eq_some_iff.mp listed
  cases same
  obtain ⟨s, here, owner, slotEq⟩ := sound.member found (Table.mem_of_lookup member)
  rw [Floor.stateOf?, here, Option.map_some, Option.some.injEq] at known
  exact ⟨s, here, owner, slotEq, known, member⟩

/-! ## Changes of accounts -/

/-- The entries of a tracker whose slices have new states. -/
theorem Floor.Sound.noted?_map (sound : floor.Sound) (found : floor.trackers[t]? = some k)
    (members : k'.members = k.members) (change : SliceRef → SliceState → SliceState)
    (states : ∀ (j : SliceRef) (s : Slice), floor.slices[j]? = some s → s.owner = some t →
      next.stateOf? j = some (change j s.state)) (slot : Slot) :
    next.noted? k' slot = (floor.noted? k slot).map fun (j, state) => (j, change j state) := by
  rw [Floor.noted?, members]
  cases member : k.members.lookup slot with
  | none =>
      rw [Floor.noted?_of_absent member]
      rfl
  | some j =>
      obtain ⟨s, here, owner, -⟩ := sound.member found (Table.mem_of_lookup member)
      rw [Floor.noted?_of_lookup member here, Option.bind_some, states j s here owner]
      rfl

/-- An account stays when the failure, the members and their states do. -/
theorem Floor.Sound.account?_congr (sound : floor.Sound) (found : floor.trackers[t]? = some k)
    (found' : next.trackers[t]? = some k') (fatal : k'.fatal = k.fatal)
    (members : k'.members = k.members)
    (states : ∀ (j : SliceRef) (s : Slice), floor.slices[j]? = some s → s.owner = some t →
      next.stateOf? j = some s.state) : next.account? t = floor.account? t := by
  rw [Floor.account?_of found, Floor.account?_of found', Floor.accountOf, Floor.accountOf, fatal]
  have entries : next.noted? k' = floor.noted? k := by
    funext slot
    rw [sound.noted?_map found members (fun _ state => state) states]
    cases floor.noted? k slot <;> rfl
  rw [entries]

/-- A change that concerns another tracker. -/
theorem Floor.Reworks.account?_other {k₁ k₂ : Tracker} (rework : Floor.Reworks u k₁ k₂ floor next)
    (sound : floor.Sound) (other : t ≠ u) : next.account? t = floor.account? t := by
  cases found : floor.trackers[t]? with
  | none => rw [Floor.account?, Floor.account?, rework.others t other, found, Option.map_none,
      Option.map_none]
  | some k =>
      refine sound.account?_congr found ((rework.others t other).trans found) rfl rfl
        fun j s here owner => ?_
      have there := rework.outside j s here fun same =>
        other (Option.some.inj (owner.symm.trans same))
      rw [Floor.stateOf?, there, Option.map_some]

/-- The entries of a tracker when one of its slices comes to a state and all others change alike. -/
theorem Floor.Sound.noted?_around (sound : floor.Sound) (found : floor.trackers[t]? = some k)
    (members : k'.members = k.members) (here : floor.slices[i]? = some s)
    (owner : s.owner = some t) (own : SliceState) (change : SliceState → SliceState)
    (states : ∀ (j : SliceRef) (s₁ : Slice), floor.slices[j]? = some s₁ → s₁.owner = some t →
      next.stateOf? j = some (if i = j then own else change s₁.state)) (slot : Slot) :
    next.noted? k' slot = if slot = s.slot then some (i, own)
      else (floor.noted? k slot).map fun (j, state) => (j, change state) := by
  rw [sound.noted?_map found members (fun j state => if i = j then own else change state) states]
  split
  · next same =>
      rw [same, sound.noted?_of_owner found here owner]
      exact congrArg (fun state => some (i, state)) (if_pos rfl)
  · next other =>
      cases entry : floor.noted? k slot with
      | none => rfl
      | some pair =>
          obtain ⟨j, state⟩ := pair
          obtain ⟨s₁, there, -, slotEq, -⟩ := sound.of_noted? found entry
          -- two slots do not have one slice
          have apart : i ≠ j := by
            rintro rfl
            rw [here] at there
            cases there
            exact other slotEq.symm
          exact congrArg (fun state => some (j, state)) (if_neg apart)

/-- A change of one slice of a tracker is entered in its account. -/
theorem Floor.Sound.account?_enter (sound : floor.Sound) (s' : Slice)
    (found : floor.trackers[t]? = some k) (here : floor.slices[i]? = some s)
    (owner : s.owner = some t)
    (slices : ∀ j : SliceRef, next.slices[j]? = if i = j then some s' else floor.slices[j]?)
    (trackers : next.trackers = floor.trackers) :
    next.account? t = some ((floor.accountOf k).enter s.slot i s'.state) := by
  have found' : next.trackers[t]? = some k := by rw [trackers]; exact found
  rw [Floor.account?_of found', Floor.accountOf, Floor.accountOf, Account.enter]
  have entries : next.noted? k = fun other =>
      if other = s.slot then some (i, s'.state) else floor.noted? k other := by
    funext slot
    rw [sound.noted?_around found rfl here owner s'.state (fun state => state)]
    · cases floor.noted? k slot <;> rfl
    · intro j s₁ there _
      rw [Floor.stateOf?, slices]
      split
      · rfl
      · rw [there, Option.map_some]
  rw [entries]

theorem Floor.account?_admitted (sound : floor.Sound) (found : floor.trackers[t]? = some k)
    (here : floor.slices[i]? = some s) (free : s.owner = none)
    (new : k.members.lookup s.slot = none) :
    (floor.admitted t k i s).account? t = some ((floor.accountOf k).enter s.slot i .pending) := by
  have found' : (floor.admitted t k i s).trackers[t]? =
      some { k with members := k.members ++ [(s.slot, i)] } := by
    rw [Floor.trackers_admitted found, if_pos rfl]
  rw [Floor.account?_of found', Floor.accountOf, Floor.accountOf, Account.enter]
  have entries : (floor.admitted t k i s).noted? { k with members := k.members ++ [(s.slot, i)] } =
      fun other => if other = s.slot then some (i, .pending) else floor.noted? k other := by
    funext slot
    rw [Floor.noted?, Table.lookup_concat new]
    split
    · next same =>
        subst same
        rw [Option.bind_some, Floor.stateOf?, Floor.slices_admitted here, if_pos rfl]
        rfl
    · next other =>
        cases member : k.members.lookup slot with
        | none =>
            rw [Floor.noted?_of_absent member]
            rfl
        | some j =>
            obtain ⟨s₁, there, owner, -⟩ := sound.member found (Table.mem_of_lookup member)
            rw [Floor.noted?_of_lookup member there, Option.bind_some, Floor.stateOf?,
              Floor.slices_admitted_of_bound here free there owner]
            rfl
  rw [entries]

theorem Floor.account?_admitted_other (sound : floor.Sound) (found : floor.trackers[u]? = some k)
    (here : floor.slices[i]? = some s) (free : s.owner = none) (other : t ≠ u) :
    (floor.admitted u k i s).account? t = floor.account? t := by
  have same : (floor.admitted u k i s).trackers[t]? = floor.trackers[t]? := by
    rw [Floor.trackers_admitted found, if_neg (Ne.symm other)]
  cases before : floor.trackers[t]? with
  | none => rw [Floor.account?, Floor.account?, same, before, Option.map_none, Option.map_none]
  | some k₁ =>
      refine sound.account?_congr before (same.trans before) rfl rfl fun j s₁ there owner => ?_
      rw [Floor.stateOf?, Floor.slices_admitted_of_bound here free there owner, Option.map_some]

theorem Floor.account?_doomed {replica : String} {f : FatalFailure} (sound : floor.Sound)
    (found : floor.trackers[t]? = some k) (here : floor.slices[i]? = some s)
    (owner : s.owner = some t) :
    (floor.doomed t i s replica f).account? t = some ((floor.accountOf k).doom s.slot i f) := by
  have found' : (floor.doomed t i s replica f).trackers[t]? = some { k with fatal := some f } := by
    rw [Floor.trackers_doomed found, if_pos rfl]
  rw [Floor.account?_of found', Floor.accountOf, Floor.accountOf, Account.doom]
  have entries : (floor.doomed t i s replica f).noted? { k with fatal := some f } =
      fun other => if other = s.slot then some (i, .failed)
        else (floor.noted? k other).map fun (j, state) => (j, state.onCancel) := by
    funext slot
    refine sound.noted?_around found rfl here owner .failed .onCancel ?_ slot
    intro j s₁ there owned
    rw [Floor.stateOf?, Floor.slices_doomed found here]
    split
    · rfl
    · rw [if_pos ((sound.mem_membersOf_iff found there).mpr owned), there, Option.map_some,
        Option.map_some, Slice.state_cancelled]
  rw [entries]

/-- What an outcome does to the account of the slice's tracker. -/
theorem Floor.Landed.account? {replica : String} {outcome : Outcome}
    (landed : Floor.Landed floor t k i s replica outcome next) (sound : floor.Sound)
    (found : floor.trackers[t]? = some k) (here : floor.slices[i]? = some s)
    (owner : s.owner = some t) :
    next.account? t = some ((floor.accountOf k).ended s.slot i outcome floor.minted) := by
  have entry := sound.noted?_of_owner found here owner
  have counts : s.state = .pending →
      (floor.accountOf k).entries s.slot = some (i, .pending) := by
    intro pending
    rw [← pending]
    exact entry
  cases landed with
  | completed pending =>
      rw [Account.ended, if_pos (counts pending)]
      exact sound.account?_enter (s.ended _ _ _ _) found here owner
        (fun _ => Floor.slices_modifySlice_of here) rfl
  | failed pending =>
      rw [Account.ended, if_pos (counts pending)]
      exact sound.account?_enter (s.ended _ _ _ _) found here owner
        (fun _ => Floor.slices_modifySlice_of here) rfl
  | doomed pending =>
      rw [Account.ended, if_pos (counts pending)]
      exact Floor.account?_doomed sound found here owner
  | late statuses cancelled noted slices trackers queues minted =>
      have ignored : (floor.accountOf k).entries s.slot ≠ some (i, .pending) := by
        intro counted
        have same := (show floor.noted? k s.slot = _ from counted).symm.trans entry
        rw [cancelled] at same
        cases same
      rw [Account.ended_of_ignored ignored, ← Floor.account?_of found]
      refine sound.account?_congr found (by rw [trackers]; exact found) rfl rfl
        fun j s₁ there _ => ?_
      rw [Floor.stateOf?, slices]
      split
      · next same =>
          subst same
          rw [here] at there
          cases there
          rfl
      · rw [there, Option.map_some]

/-! ## Bound slices -/

theorem Floor.isBound_of (here : floor.slices[i]? = some s) : floor.isBound i = s.owner.isSome := by
  rw [Floor.isBound, here]
  rfl

/-- A change that concerns one tracker binds and frees no slice. -/
theorem Floor.Reworks.isBound {k₁ k₂ : Tracker} (rework : Floor.Reworks t k₁ k₂ floor next) :
    next.isBound = floor.isBound := by
  funext j
  cases here : floor.slices[j]? with
  | none => rw [Floor.isBound, Floor.isBound, here, rework.absent j here]
  | some s =>
      by_cases owner : s.owner = some t
      · obtain ⟨s', there, owner', -⟩ := rework.inside j s here owner
        rw [Floor.isBound_of here, Floor.isBound_of there, owner, owner']
      · rw [Floor.isBound_of here, Floor.isBound_of (rework.outside j s here owner)]

theorem Floor.isBound_admitted (here : floor.slices[i]? = some s) :
    (floor.admitted t k i s).isBound = fun j => decide (j = i) || floor.isBound j := by
  funext j
  rw [Floor.isBound, Floor.slices_admitted here]
  by_cases same : i = j
  · subst same
    simp
  · rw [if_neg same, decide_eq_false (Ne.symm same), Bool.false_or]
    rfl

end Restage
