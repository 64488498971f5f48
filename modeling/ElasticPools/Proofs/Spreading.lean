import ElasticPools.Proofs.Agreement

/-!
What entering a tick hands out. The load of each kind is cut into shares, one for each place in its
pool. What a worker takes is what is handed out under its name: its usage window records these shares
one after the other, and the pool shows who got something.
-/

set_option autoImplicit false

namespace ElasticPools

variable {α : Type}

/-- The shares that are handed out under a name. -/
def sharesFor (w : WorkerId) (given : List (WorkerId × α)) : List α :=
  (given.filter (·.1 = w)).map (·.2)

section Given

variable {w : WorkerId} {given : List (WorkerId × α)}

theorem sharesFor_cons (assigned : WorkerId × α) (rest : List (WorkerId × α)) :
    sharesFor w (assigned :: rest) =
      if assigned.1 = w then assigned.2 :: sharesFor w rest else sharesFor w rest := by
  rw [sharesFor, List.filter_cons, sharesFor]
  simp only [decide_eq_true_eq]
  split <;> rfl

theorem sharesFor_append (given more : List (WorkerId × α)) :
    sharesFor w (given ++ more) = sharesFor w given ++ sharesFor w more := by
  rw [sharesFor, List.filter_append, List.map_append, sharesFor, sharesFor]

theorem length_sharesFor : (sharesFor w given).length = (given.map (·.1)).count w := by
  rw [sharesFor, List.length_map, ← List.countP_eq_length_filter, List.count, List.countP_map]
  refine List.countP_congr fun assigned _ => ?_
  simp

theorem mem_sharesFor {share : α} : share ∈ sharesFor w given ↔ (w, share) ∈ given := by
  simp [sharesFor, and_comm]

/-- A name that is called once is given one share. -/
theorem sharesFor_of_once (once : (given.map (·.1)).count w = 1) {share : α}
    (member : (w, share) ∈ given) : sharesFor w given = [share] := by
  obtain ⟨only, same⟩ := List.length_eq_one_iff.mp (length_sharesFor.trans once)
  have inside : share ∈ sharesFor w given := mem_sharesFor.mpr member
  rw [same, List.mem_singleton] at inside
  rw [same, inside]

end Given

namespace Usage

/-- Adds shares one after the other. -/
def recordAll (window : Nat) (given : List α) (u : Usage α) : Usage α :=
  given.foldl (fun u share => u.record window share) u

theorem recordAll_append (window : Nat) (given more : List α) (u : Usage α) :
    u.recordAll window (given ++ more) = (u.recordAll window given).recordAll window more :=
  List.foldl_append

end Usage

namespace Registry

variable {r : Registry} {k : Kind}

/-- A pool whose names are listed once has no name twice. -/
theorem nodup_of_once {workers : List Worker} (found : r.pool? k = some workers)
    (once : ∀ v ∈ workers, (Controller.idsOf r.toList).count v.id = 1) :
    (workers.map (·.id)).Nodup := by
  obtain ⟨front, back, listed⟩ := List.append_of_mem (mem_toList.mpr found)
  rw [List.nodup_iff_count_le_one]
  intro w
  by_cases inside : w ∈ workers.map (·.id)
  · obtain ⟨v, member, rfl⟩ := List.mem_map.mp inside
    have all := once v member
    rw [listed, Controller.idsOf, List.flatMap_append, List.flatMap_cons, List.count_append,
      List.count_append] at all
    dsimp only at all
    omega
  · rw [List.count_eq_zero_of_not_mem inside]
    exact Nat.zero_le 1

variable [Quantity α]

/-- A worker as its pool shows it with a share. -/
def marked (v : Worker) (assigned : WorkerId × α) : Worker :=
  { v with busy := (0.0 : α) < assigned.2 }

/-- Marks workers one after the other by what they are given. -/
def markAll (given : List (WorkerId × α)) (workers : List Worker) : List Worker :=
  given.foldl (fun workers assigned => markBusy assigned.1 ((0.0 : α) < assigned.2) workers) workers

/-- Shares that are handed out to distinct workers in their order mark each by its own share.
Induction over the workers that are still to be marked. -/
theorem markAll_append {given : List (WorkerId × α)} {front workers : List Worker}
    (names : given.map (·.1) = workers.map (·.id))
    (distinct : ((front ++ workers).map (·.id)).Nodup) :
    markAll given (front ++ workers) = front ++ List.zipWith marked workers given := by
  induction workers generalizing given front with
  | nil =>
    rw [List.map_nil, List.map_eq_nil_iff] at names
    rw [names]
    rfl
  | cons v rest ih =>
    rw [List.map_cons] at names
    obtain ⟨⟨_, share⟩, given, rfl, rfl, others⟩ := List.map_eq_cons_iff.mp names
    have first : v.id ∉ front.map (·.id) := by
      rw [List.map_append, List.map_cons, List.nodup_middle, List.nodup_cons, List.mem_append,
        not_or] at distinct
      exact distinct.1.1
    have same : ((front ++ [marked v (v.id, share)] ++ rest).map Worker.id).Nodup := by
      simpa [marked] using distinct
    have step := ih others same
    rw [List.append_assoc, List.singleton_append, List.append_assoc, List.singleton_append] at step
    rw [markAll, List.foldl_cons, markBusy_append_cons rest first, List.zipWith_cons_cons]
    exact step

theorem markAll_of_nodup {given : List (WorkerId × α)} {workers : List Worker}
    (names : given.map (·.1) = workers.map (·.id)) (distinct : (workers.map (·.id)).Nodup) :
    markAll given workers = List.zipWith marked workers given :=
  @markAll_append α _ given [] workers names distinct

end Registry

namespace Cloud

variable [Quantity α] {c : Cloud α} {kind k : Kind} {w : WorkerId}

theorem loadAt_congr {c d : Cloud α} (same : c.plans[k]? = d.plans[k]?) (tick : Nat) :
    c.loadAt k tick = d.loadAt k tick := by
  rw [loadAt, loadAt, same]

theorem loadAt_of_setting {c d : Cloud α} (same : c.setting = d.setting) (k : Kind) (tick : Nat) :
    c.loadAt k tick = d.loadAt k tick := by
  have plans : c.plans = d.plans := congrArg Setting.plans same
  exact loadAt_congr (by rw [plans]) tick

theorem map_fst_shares (load : α) (workers : List Worker) :
    (shares load workers).map (·.1) = workers.map (·.id) := by
  induction workers generalizing load with
  | nil => rfl
  | cons v rest ih => rw [shares, List.map_cons, List.map_cons, ih]

/-- A load in pieces of one at most, for so many places. -/
def pieces (load : α) : Nat → List α
  | 0 => []
  | places + 1 =>
    let piece := if load < (1.0 : α) then load else 1.0
    piece :: pieces (load - piece) places

/-- Places and not names decide on the shares. -/
theorem map_snd_shares (load : α) (workers : List Worker) :
    (shares load workers).map (·.2) = pieces load workers.length := by
  induction workers generalizing load with
  | nil => rfl
  | cons v rest ih => rw [shares, List.map_cons, ih, List.length_cons, pieces]

theorem shares_congr {load : α} {workers others : List Worker}
    (same : workers.map (·.id) = others.map (·.id)) : shares load workers = shares load others := by
  have length : workers.length = others.length := by
    rw [← List.length_map, same, List.length_map]
  rw [List.zip_of_prod (map_fst_shares load workers) (map_snd_shares load workers), same, length]
  exact (List.zip_of_prod (map_fst_shares load others) (map_snd_shares load others)).symm

/-- Everything that a tick hands out, kind by kind. -/
def handedOut (c : Cloud α) (tick : Nat) : List (WorkerId × α) :=
  c.registry.toList.flatMap fun q => shares (c.loadAt q.1 tick) q.2

/-- Each name is called as often as it stands in the registry. -/
theorem map_fst_handedOut (c : Cloud α) (tick : Nat) :
    (c.handedOut tick).map (·.1) = Controller.idsOf c.registry.toList := by
  rw [handedOut, List.map_flatMap, Controller.idsOf]
  exact List.flatMap_congr fun q _ => map_fst_shares _ q.2

theorem mem_handedOut {workers : List Worker} (found : c.registry.pool? k = some workers) {tick : Nat}
    {assigned : WorkerId × α} (given : assigned ∈ shares (c.loadAt k tick) workers) :
    assigned ∈ c.handedOut tick :=
  List.mem_flatMap.mpr ⟨(k, workers), Registry.mem_toList.mpr found, given⟩

section Assigning

theorem pool?_assign (assigned : WorkerId × α) :
    (c.assign kind assigned).registry.pool? k =
      if kind = k then (c.registry.pool? k).map (Registry.markBusy assigned.1 ((0.0 : α) < assigned.2))
      else c.registry.pool? k :=
  Registry.pool?_mark

theorem usage_assign (assigned : WorkerId × α) : (c.assign kind assigned).usage[w]? =
    if assigned.1 = w then (c.usage[w]?).map (·.record c.window assigned.2) else c.usage[w]? := by
  simp only [assign, Std.ExtTreeMap.getElem?_modify, Std.compare_eq_iff_eq]
  split
  · next same => rw [same]
  · rfl

theorem pool?_foldl_assign (given : List (WorkerId × α)) (c : Cloud α) :
    (given.foldl (assign kind) c).registry.pool? k =
      if kind = k then (c.registry.pool? k).map (Registry.markAll given) else c.registry.pool? k := by
  induction given generalizing c with
  | nil =>
    split
    · exact Option.map_id'.symm
    · rfl
  | cons assigned rest ih =>
    rw [List.foldl_cons, ih, pool?_assign]
    split
    · rw [Option.map_map]
      rfl
    · rfl

theorem usage_foldl_assign (given : List (WorkerId × α)) (c : Cloud α) :
    (given.foldl (assign kind) c).usage[w]? =
      (c.usage[w]?).map (·.recordAll c.window (sharesFor w given)) := by
  induction given generalizing c with
  | nil => exact Option.map_id'.symm
  | cons assigned rest ih =>
    have window : (c.assign kind assigned).window = c.window := rfl
    rw [List.foldl_cons, ih, usage_assign, window, sharesFor_cons]
    split
    · rw [Option.map_map]
      rfl
    · rfl

end Assigning

/-- Spreads the load of a kind over its pool. -/
def loadPool (tick : Nat) (c : Cloud α) (q : Kind × List Worker) : Cloud α :=
  (shares (c.loadAt q.1 tick) q.2).foldl (assign q.1) c

section Pools

variable (tick : Nat)

theorem setting_loadPool (c : Cloud α) (q : Kind × List Worker) :
    (loadPool tick c q).setting = c.setting :=
  foldl_keeps (f := assign q.1) (P := (·.setting = c.setting)) (fun _ _ same => same) _ rfl

theorem setting_foldl_loadPool (pools : List (Kind × List Worker)) (c : Cloud α) :
    (pools.foldl (loadPool tick) c).setting = c.setting :=
  foldl_keeps (P := (·.setting = c.setting))
    (fun d q same => (setting_loadPool tick d q).trans same) _ rfl

/-- The load of other kinds leaves a pool as it is. -/
theorem pool?_foldl_loadPool {pools : List (Kind × List Worker)} (absent : k ∉ pools.map (·.1))
    (c : Cloud α) : (pools.foldl (loadPool tick) c).registry.pool? k = c.registry.pool? k := by
  induction pools generalizing c with
  | nil => rfl
  | cons q pools ih =>
    rw [List.map_cons, List.mem_cons, not_or] at absent
    rw [List.foldl_cons, ih absent.2, loadPool, pool?_foldl_assign, if_neg (Ne.symm absent.1)]

theorem usage_foldl_loadPool (pools : List (Kind × List Worker)) (c : Cloud α) :
    (pools.foldl (loadPool tick) c).usage[w]? = (c.usage[w]?).map (·.recordAll c.window
      (sharesFor w (pools.flatMap fun q => shares (c.loadAt q.1 tick) q.2))) := by
  induction pools generalizing c with
  | nil => exact Option.map_id'.symm
  | cons q pools ih =>
    have setting := setting_loadPool tick c q
    have window : (loadPool tick c q).window = c.window := congrArg Setting.window setting
    have loads : ∀ k, (loadPool tick c q).loadAt k tick = c.loadAt k tick :=
      fun k => loadAt_of_setting setting k tick
    rw [List.foldl_cons, ih, window, loadPool, usage_foldl_assign, ← loadPool, Option.map_map]
    simp only [loads, List.flatMap_cons, sharesFor_append, Usage.recordAll_append,
      Function.comp_def]

/-- Each pool is marked by its own shares. -/
theorem pool?_spreadLoad (c : Cloud α) : (c.spreadLoad tick).registry.pool? k =
    (c.registry.pool? k).map fun workers =>
      Registry.markAll (shares (c.loadAt k tick) workers) workers := by
  have kinds := c.registry.nodup_toList
  show (c.registry.toList.foldl (loadPool tick) c).registry.pool? k = _
  cases found : c.registry.pool? k with
  | none =>
    rw [pool?_foldl_loadPool tick (Registry.not_mem_toList found), found, Option.map_none]
  | some workers =>
    obtain ⟨front, back, listed⟩ := List.append_of_mem (Registry.mem_toList.mpr found)
    rw [listed] at kinds
    obtain ⟨before, after⟩ := Controller.kind_apart kinds
    -- the pools before it, the pool itself, and those after it
    rw [listed, List.foldl_append, List.foldl_cons, pool?_foldl_loadPool tick after, loadPool,
      pool?_foldl_assign, if_pos rfl, pool?_foldl_loadPool tick before, found,
      loadAt_of_setting (setting_foldl_loadPool tick front c), Option.map_some, Option.map_some]

/-- Each usage window records what is handed out under its name. -/
theorem usage_spreadLoad (c : Cloud α) : (c.spreadLoad tick).usage[w]? =
    (c.usage[w]?).map (·.recordAll c.window (sharesFor w (c.handedOut tick))) :=
  usage_foldl_loadPool tick c.registry.toList c

section Once

variable {workers : List Worker} (found : c.registry.pool? k = some workers)
  (once : ∀ v ∈ workers, (Controller.idsOf c.registry.toList).count v.id = 1)

include found once

/-- Where each name of a pool is listed once, each worker shows its own share. -/
theorem pool?_spreadLoad_of_once : (c.spreadLoad tick).registry.pool? k =
    some (List.zipWith Registry.marked workers (shares (c.loadAt k tick) workers)) := by
  rw [pool?_spreadLoad, found, Option.map_some]
  exact congrArg some (Registry.markAll_of_nodup (map_fst_shares _ workers)
    (Registry.nodup_of_once found once))

/-- Where each name of a pool is listed once, each usage window records one share. -/
theorem usage_spreadLoad_of_once {assigned : WorkerId × α}
    (given : assigned ∈ shares (c.loadAt k tick) workers) :
    (c.spreadLoad tick).usage[assigned.1]? =
      (c.usage[assigned.1]?).map (·.record c.window assigned.2) := by
  have named : assigned.1 ∈ (shares (c.loadAt k tick) workers).map (·.1) :=
    List.mem_map.mpr ⟨assigned, given, rfl⟩
  rw [map_fst_shares] at named
  obtain ⟨v, member, same⟩ := List.mem_map.mp named
  have called : ((c.handedOut tick).map (·.1)).count assigned.1 = 1 := by
    rw [map_fst_handedOut, ← same]
    exact once v member
  rw [usage_spreadLoad, sharesFor_of_once called (mem_handedOut found given)]
  rfl

end Once

end Pools

end Cloud

end ElasticPools
