import Restage.Disk

/-!
# Taking files off the disk

What stands at a place is independent of what stands elsewhere, but where a path leads is not: a
walk looks at every place it comes by. `Disk.walk_erase` says what becomes of a walk when a place is
cleared, and `Disk.entryAt?_erase` that a path by which a file was taken away leads to nothing
afterwards, whatever links it goes through.
-/

namespace Restage

variable {disk : Disk} {place gone : Location}

/-! ## Clearing a place -/

/-- Looking up what is left when the keys were sorted out. -/
theorem lookup_filter {α β : Type} [BEq α] [LawfulBEq α] (keeps : α → Bool) (key : α)
    (pairs : List (α × β)) :
    (pairs.filter fun pair => keeps pair.1).lookup key =
      if keeps key then pairs.lookup key else none := by
  induction pairs with
  | nil => exact (ite_self _).symm
  | cons head rest ih =>
      obtain ⟨other, value⟩ := head
      cases same : key == other with
      | true =>
          obtain rfl := eq_of_beq same
          cases kept : keeps key with
          | true => simp [kept]
          | false => simp [kept, ih]
      | false =>
          cases kept : keeps other with
          | true => simp only [List.filter_cons, kept, if_true, List.lookup_cons, same, ih]
          | false => simp [kept, List.lookup_cons, same, ih]

theorem Disk.get?_erase_self (disk : Disk) (below : gone ≠ []) :
    (disk.erase gone).get? gone = none := by
  rw [Disk.get?, if_neg below]
  exact (lookup_filter (fun other => other ≠ gone) gone disk.entries).trans
    (if_neg (by simp))

theorem Disk.get?_erase_of_ne (apart : place ≠ gone) :
    (disk.erase gone).get? place = disk.get? place := by
  rw [Disk.get?, Disk.get?]
  split
  · rfl
  · exact (lookup_filter (fun other => other ≠ gone) place disk.entries).trans
      (if_pos (by simpa using apart))

/-- Where a walk leads when nothing stands at a place any more: where it led before, unless it comes
by that place, beyond which there is no way then. -/
theorem Disk.walk_erase (disk : Disk) (below : gone ≠ []) (follow : Bool) (links : Nat)
    (base : Location) (steps : List Component) :
    (disk.erase gone).walk follow links base steps = disk.walk follow links base steps ∨
      (disk.erase gone).walk follow links base steps = .error .notFound ∨
      (disk.erase gone).walk follow links base steps = .ok gone := by
  -- a link may lead to more steps than there were, but leaves fewer links to follow
  induction links using Nat.strongRecOn generalizing base steps with
  | _ links fewer =>
      induction steps generalizing base with
      | nil => exact .inl (by rw [Disk.walk, Disk.walk])
      | cons step rest shorter =>
          cases step with
          | root | here | up =>
              rw [Disk.walk, Disk.walk]
              exact shorter _
          | name part =>
              rw [Disk.walk, Disk.walk]
              split
              · exact .inl rfl
              split
              · exact .inl rfl
              by_cases met : base ++ [String.ofList part] = gone
              · rw [met, disk.get?_erase_self below]
                by_cases last : rest = []
                · exact .inr (.inr (if_pos last))
                · exact .inr (.inl (if_neg last))
              · rw [Disk.get?_erase_of_ne met]
                cases here : disk.get? (base ++ [String.ofList part]) with
                | none => exact .inl rfl
                | some entry =>
                    cases entry with
                    | file bytes => exact .inl rfl
                    | folder => exact shorter _
                    | link target =>
                        simp only
                        split
                        · exact .inl rfl
                        · cases links with
                          | zero => exact .inl rfl
                          | succ links => exact fewer links (Nat.lt_succ_self links) _ _

theorem Disk.resolve_erase (disk : Disk) (below : gone ≠ []) (follow : Bool) (path : Path) :
    (disk.erase gone).resolve follow path = disk.resolve follow path ∨
      (disk.erase gone).resolve follow path = .error .notFound ∨
      (disk.erase gone).resolve follow path = .ok gone := by
  rw [Disk.resolve, Disk.resolve]
  split
  · exact .inl rfl
  split
  · exact .inl rfl
  · exact disk.walk_erase below follow _ _ _

/-! ## Looking at a path -/

/-- What goes well as a whole goes well step by step. -/
theorem Disk.ok_of_bind {α β : Type} {first : Except DiskFault α} {rest : α → Except DiskFault β}
    {last : β} (done : first >>= rest = .ok last) : ∃ found, first = .ok found ∧
      rest found = .ok last := by
  cases first with
  | error fault => cases done
  | ok found => exact ⟨found, rfl, done⟩

theorem Disk.find_of_error {follow : Bool} {path : Path} {fault : DiskFault}
    (lost : disk.resolve follow path = .error fault) : disk.find follow path = .error fault := by
  rw [Disk.find, lost]
  rfl

theorem Disk.find_of_ok {follow : Bool} {path : Path}
    (found : disk.resolve follow path = .ok place) :
    disk.find follow path =
      match disk.get? place with
      | some entry => .ok (place, entry)
      | none => .error .notFound := by
  rw [Disk.find, found]
  rfl

theorem Disk.entryAt?_of_error {path : Path} {fault : DiskFault}
    (lost : disk.resolve false path = .error fault) : disk.entryAt? path = none := by
  rw [Disk.entryAt?, Disk.find_of_error lost]
  rfl

theorem Disk.entryAt?_of_ok {path : Path} (found : disk.resolve false path = .ok place) :
    disk.entryAt? path = disk.get? place := by
  rw [Disk.entryAt?, Disk.find_of_ok found]
  cases disk.get? place <;> rfl

/-! ## Taking a file away -/

/-- What taking a file away by its path comes to. -/
theorem Disk.dropFile_cases (disk : Disk) (path : Path) :
    (∃ fault, disk.dropFile path = .error fault ∧
      (disk.entryAt? path = none ∨ disk.entryAt? path = some .folder)) ∨
    ∃ place, disk.dropFile path = .ok (disk.erase place) ∧ place ≠ [] ∧
      disk.resolve false path = .ok place := by
  cases found : disk.resolve false path with
  | error fault =>
      refine .inl ⟨fault, ?_, .inl (Disk.entryAt?_of_error found)⟩
      rw [Disk.dropFile, Disk.find_of_error found]
      rfl
  | ok place =>
      have entry := Disk.entryAt?_of_ok found
      rw [Disk.dropFile, Disk.find_of_ok found, entry]
      cases here : disk.get? place with
      | none => exact .inl ⟨_, rfl, .inl rfl⟩
      | some entry =>
          have below : entry ≠ .folder → place ≠ [] := by
            rintro other rfl
            rw [Disk.get?, if_pos rfl] at here
            cases here
            exact other rfl
          cases entry with
          | folder => exact .inl ⟨_, rfl, .inr rfl⟩
          | file bytes => exact .inr ⟨place, rfl, below nofun, rfl⟩
          | link target => exact .inr ⟨place, rfl, below nofun, rfl⟩

/-- Once a file or a link was taken away by its path, the path leads to nothing. -/
theorem Disk.entryAt?_erase {path : Path} (below : place ≠ [])
    (found : disk.resolve false path = .ok place) : (disk.erase place).entryAt? path = none := by
  have gone := disk.get?_erase_self below
  rcases disk.resolve_erase below false path with same | lost | there
  · rw [Disk.entryAt?_of_ok (same.trans found), gone]
  · exact Disk.entryAt?_of_error lost
  · rw [Disk.entryAt?_of_ok there, gone]

end Restage
