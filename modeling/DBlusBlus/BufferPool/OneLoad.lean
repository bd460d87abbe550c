import DBlusBlus.BufferPool.Transfers

/-! One load, one outcome: what all the fetches of one absent page come to. -/

namespace DBlusBlus.BufferPool

open Accounting Transition

variable {N : ℕ} {T V : Type} [NeZero N] [DecidableEq T] [DecidableEq V] [Fintype T] [Fintype V]
  {opts : BufferPoolOptions} {w w' : World N T V} {history : LoadHistory N} {t u : T}
  {choice : Choice T V} {page page' : PageId} {mode mode' : LatchMode} {load load' : LoadId}
  {f : Fin N}

namespace World.Inv

lemma loader_unique (h : w.Inv opts) (ht : (w.pc t).loader = some (page, mode, load))
    (hu : (w.pc u).loader = some (page', mode', load)) : t = u := by
  have hm : Resource.load load .loader ∈ w.holding (.inl t) := (Pc.loader_mem ht).1
  have hm' : Resource.load load .loader ∈ w.holding (.inl u) := (Pc.loader_mem hu).1
  have hone : w.pool.demand (.load load .loader) ≤ 1 := unit_le_one
  exact Sum.inl.inj (Balanced.unique h.accounted hone hm hm')

lemma loader_entry (h : w.Inv opts) (ht : (w.pc t).loader = some (page, mode, load)) :
    ∃ entry, w.pool.pageTable.lookup page = some entry ∧ entry.load = some load := by
  have hdue := (h.ready t).due
  rcases (Pc.loader_mem ht).2.2 with hm | ⟨f, hm⟩
  · exact ⟨_, demand_intent.mp (hdue _ hm), rfl⟩
  · exact ⟨_, demand_loading.mp (hdue _ hm), rfl⟩

lemma claimed_started (h : w.Inv opts) (ht : (w.pc t).claimed = some (page, mode, load)) :
    load < w.pool.nextLoad := by
  by_contra hn
  have hl := h.wellFormed.fresh load (not_lt.mp hn)
  have hd : (w.pool.loads load).done = false := by
    rw [hl]
    rfl
  have := (h.ready t).due _ (Pc.claimed_mem ht hd)
  simp [Pool.demand, LoadOperation.demand, hl, LoadOperation.initial] at this

lemma load_page (h : w.Inv opts) {entry entry' : PageTableEntry N}
    (he : w.pool.pageTable.lookup page = some entry)
    (he' : w.pool.pageTable.lookup page' = some entry') (hl : entry.load = some load)
    (hl' : entry'.load = some load) : page = page' := by
  have loader {page : PageId} {entry : PageTableEntry N}
      (he : w.pool.pageTable.lookup page = some entry) (hl : entry.load = some load) :
      ∃ t mode, (w.pc t).loader = some (page, mode, load) := by
    obtain ⟨role, hd, hrole⟩ := h.wellFormed.licensed he hl
    obtain ⟨u | ⟨u, v⟩, hx⟩ := Balanced.holder h.accounted hd
    · exact ⟨u, Pc.loader_of_entry hx hrole⟩
    · exact absurd hx (guardResources_entry _)
  obtain ⟨t, mode, ht⟩ := loader he hl
  obtain ⟨u, mode', hu⟩ := loader he' hl'
  obtain rfl := h.loader_unique ht hu
  rw [ht] at hu
  cases hu
  rfl

omit [DecidableEq T] [DecidableEq V] in
lemma exists_loader (h : w.Inv opts) (hl : load < w.pool.nextLoad)
    (hd : (w.pool.loads load).done = false) :
    ∃ t page mode, (w.pc t).loader = some (page, mode, load) := by
  obtain ⟨u | ⟨u, v⟩, hx⟩ := Balanced.holder h.accounted (demand_loader.mpr ⟨hl, hd⟩)
  · obtain ⟨page, mode, hp⟩ := Pc.loader_of_mem hx
    exact ⟨u, page, mode, hp⟩
  · cases hg : w.guards u v with
    | none => simp [World.holding, hg, guardResources] at hx
    | some g => simp [World.holding, hg, guardResources] at hx

end World.Inv

structure LoadInv (w : World N T V) (history : LoadHistory N) : Prop where
  filled : ∀ t, (w.pc t).Filled w.pool history
  shown : ∀ f, (w.pool.frames f).state = .resident ∨ (w.pool.frames f).state = .evicting →
    ∃ validator, w.pool.validator (w.pool.frames f).page.id.fileId = some validator ∧
      (history.origin f).Vouched validator (w.pool.frames f).page
  reads : ∀ load, history.reads load ≤ 1
  fresh : ∀ load, w.pool.nextLoad ≤ load → history.reads load = 0
  unread : ∀ t load, (w.pc t).unread = some load → history.reads load = 0
  agreed : ∀ t u page page' mode mode' load, (w.pc t).claimed = some (page, mode, load) →
    (w.pc u).claimed = some (page', mode', load) → page = page'

omit [NeZero N] [DecidableEq V] [Fintype T] [Fintype V] in
lemma agreed_of_critical (h : LoadInv w history) {turn : Turn N V}
    (hnew : ∀ page mode load, turn.pc.claimed = some (page, mode, load) →
      ∀ u page' mode', u ≠ t → (w.pc u).claimed = some (page', mode', load) → page = page') :
    ∀ x y page page' mode mode' load,
      ((w.finish opts t turn).pc x).claimed = some (page, mode, load) →
      ((w.finish opts t turn).pc y).claimed = some (page', mode', load) → page = page' := by
  have others (u : T) (hu : u ≠ t) : (w.finish opts t turn).pc u = w.pc u :=
    Function.update_of_ne hu ..
  intro x y page page' mode mode' load hx hy
  by_cases hxt : x = t
  · subst hxt
    rw [World.finish_pc] at hx
    by_cases hyx : y = x
    · subst hyx
      rw [World.finish_pc, hx] at hy
      cases hy
      rfl
    · rw [others y hyx] at hy
      exact hnew page mode load hx y page' mode' hyx hy
  · rw [others x hxt] at hx
    by_cases hyt : y = t
    · subst hyt
      rw [World.finish_pc] at hy
      exact (hnew page' mode' load hy x page mode hxt hx).symm
    · rw [others y hyt] at hy
      exact h.agreed x y page page' mode mode' load hx hy


lemma LoadInv.claims_entry (h : LoadInv w history) (hi : w.Inv opts)
    (ht : (w.pc t).claimed = some (page, mode, load)) (hd : (w.pool.loads load).done = false) :
    ∃ entry, w.pool.pageTable.lookup page = some entry ∧ entry.load = some load := by
  obtain ⟨u, page', mode', hu⟩ := hi.exists_loader (hi.claimed_started ht) hd
  obtain rfl := h.agreed t u page page' mode mode' load ht (Pc.claimed_of_loader hu)
  exact hi.loader_entry hu

lemma LoadInv.shown_of_critical (h : LoadInv w history) (hi : w.Inv opts) {pool' : Pool N}
    {pc' : Pc N V} (hm : Move opts w.pool (w.pc t) pool' pc') (f : Fin N)
    (hs : (pool'.frames f).state = .resident ∨ (pool'.frames f).state = .evicting) :
    ∃ validator, pool'.validator (pool'.frames f).page.id.fileId = some validator ∧
      (history.origin f).Vouched validator (pool'.frames f).page := by
  have hr := hi.ready t
  have bound (hf : (w.pool.frames f).state ≠ .free) :
      pool'.validator (w.pool.frames f).page.id.fileId =
        w.pool.validator (w.pool.frames f).page.id.fileId := by
    obtain ⟨entry, he, -⟩ := hi.wellFormed.bindings.names hf
    exact hm.validator hi.wellFormed hr he
  have kept (hp : (pool'.frames f).page = (w.pool.frames f).page)
      (hs : (w.pool.frames f).state = .resident ∨ (w.pool.frames f).state = .evicting) :
      ∃ validator, pool'.validator (pool'.frames f).page.id.fileId = some validator ∧
        (history.origin f).Vouched validator (pool'.frames f).page := by
    rw [hp, bound (by rcases hs with hs | hs <;> simp [hs])]
    exact h.shown f hs
  have hstep := hm.frame hi.wellFormed hr f
  generalize pool'.frames f = frame at hstep hs kept ⊢
  cases hstep with
  | kept => exact kept rfl hs
  | pinned _ hf | writebackStarted _ hf | writtenBack _ hf | writebackFailed _ hf =>
    exact kept rfl (.inl hf)
  | unpinned => exact kept rfl hs
  | reserved _ he => exact kept rfl (.inl ((isVictimEligible_iff f).mp he).1)
  | evictionStarted _ hf | restored _ hf => exact kept rfl (.inr hf)
  | bound | retired | dropped | evicted | discarded => simp [BufferFrame.cleared] at hs
  | @loaded page mode load read outcome hpc hlf hf hid =>
    obtain ⟨rfl, rfl, -⟩ := loadFailure_none hlf
    have hfill := h.filled t
    rw [hpc] at hfill
    obtain ⟨ho, validator, hv, hout⟩ := hfill
    refine ⟨validator, ?_, ?_⟩
    · rw [← hid] at hv
      exact (bound (by simp [hf])).trans hv
    · rw [ho]
      exact validateLoadedPage_valid hout.symm
  | @created page hpc hf hid =>
    have hfill := h.filled t
    rw [hpc] at hfill
    obtain ⟨ho, validator, hv, hout⟩ := hfill
    refine ⟨validator, ?_, ?_⟩
    · rw [← hid] at hv
      exact (bound (by simp [hf])).trans hv
    · rw [ho]
      exact validateLoadedPage_valid hout.symm

lemma LoadInv.filled_of_critical (h : LoadInv w history) (hi : w.Inv opts) {pool' : Pool N}
    {pc' : Pc N V} (hm : Move opts w.pool (w.pc t) pool' pc') (hu : u ≠ t) :
    (w.pc u).Filled pool' history := by
  have hr := hi.ready t
  refine (h.filled u).congr (fun page f validator hf hv => ?_) fun page f hf => ⟨?_, rfl⟩
  · obtain ⟨load, he, -⟩ := World.Inv.entry_of_filling hi.accounted hf
    rw [hm.validator hi.wellFormed hr he]
    exact hv
  · obtain ⟨hid, hs⟩ := hi.filling_loading hf
    have hstep := hm.frame hi.wellFormed hr f
    generalize pool'.frames f = frame at hstep ⊢
    cases hstep with
    | bound hfree => simp [hs] at hfree
    | retired _ _ hf => simp [hs] at hf
    | dropped _ hf | evicted _ hf => simp [hs] at hf
    | discarded hd =>
      exfalso
      rcases hd with ⟨_, _, _, _, hpc⟩ | ⟨_, _, hpc⟩
      · exact hu (hi.filling_unique hf (by rw [hpc]; rfl))
      · exact hu (hi.filling_unique hf (by rw [hpc]; rfl))
    | _ => rfl

lemma LoadInv.critical (h : LoadInv w history) (hi : w.Inv opts) {turn : Turn N V}
    (hm : Move opts w.pool (w.pc t) turn.pool turn.pc) :
    LoadInv (w.finish opts t turn) history where
  filled u := by
    by_cases hu : u = t
    · subst hu
      rw [World.finish_pc]
      exact hm.filled
    · rw [World.finish_pc_of_ne hu]
      exact h.filled_of_critical hi hm hu
  shown := h.shown_of_critical hi hm
  reads := h.reads
  fresh load hl :=
    h.fresh load ((hm.nextLoad ((hi.ready t).not_missing hi.wellFormed)).trans hl)
  unread u load hl := by
    by_cases hu : u = t
    · subst hu
      rw [World.finish_pc] at hl
      rcases hm.unread hl with hl | ⟨rfl, -⟩
      · exact h.unread u load hl
      · exact h.fresh _ le_rfl
    · rw [World.finish_pc_of_ne hu] at hl
      exact h.unread u load hl
  agreed := by
    refine agreed_of_critical h fun page mode load hc u page' mode' hu hu' => ?_
    rcases hm.claimed_of hc with hold | rfl | ⟨entry, he, hl⟩
    · exact h.agreed t u page page' mode mode' load hold hu'
    · exact absurd (hi.claimed_started hu') (lt_irrefl _)
    · have hd := ((hi.ready t).pending page entry load he hl).1
      obtain ⟨entry', he', hl'⟩ := h.claims_entry hi hu' hd
      exact hi.load_page he he' hl hl'

omit [NeZero N] [DecidableEq V] [Fintype T] [Fintype V] in
lemma LoadInv.light (h : LoadInv w history) (hl : Light w w' t choice)
    {history' : LoadHistory N} (hreads : history'.reads = history.reads)
    (hself : (w'.pc t).Filled w'.pool history')
    (hothers : ∀ u page f, u ≠ t → (w.pc u).filling = some (page, f) →
      (w'.pool.frames f).page = (w.pool.frames f).page ∧ history'.origin f = history.origin f)
    (hshown : ∀ f, (w.pool.frames f).state ≠ .loading →
      (w'.pool.frames f).page = (w.pool.frames f).page ∧ history'.origin f = history.origin f ∨
        history'.origin f = .written)
    (hclaimed : ∀ claim, (w'.pc t).claimed = some claim → (w.pc t).claimed = some claim)
    (hunread : ∀ load, (w'.pc t).unread = some load → (w.pc t).unread = some load) :
    LoadInv w' history' where
  filled u := by
    by_cases hu : u = t
    · subst hu
      exact hself
    · rw [hl.others u hu]
      refine (h.filled u).congr (fun page f validator _ hv => ?_) fun page f => hothers u page f hu
      rwa [Pool.validator, hl.touch.files]
  shown f hs := by
    rw [(hl.touch.frame f).state] at hs
    rw [Pool.validator, hl.touch.files, (hl.touch.frame f).id]
    obtain ⟨validator, hv, hvouched⟩ := h.shown f hs
    refine ⟨validator, hv, ?_⟩
    rcases hshown f (by rcases hs with hs | hs <;> simp [hs]) with ⟨hp, ho⟩ | ho
    · rwa [hp, ho]
    · rw [ho]
      trivial
  reads := hreads ▸ h.reads
  fresh := by
    rw [hl.touch.nextLoad, hreads]
    exact h.fresh
  unread u load hu := by
    rw [hreads]
    by_cases hut : u = t
    · subst hut
      exact h.unread u load (hunread load hu)
    · rw [hl.others u hut] at hu
      exact h.unread u load hu
  agreed x y page page' mode mode' load hx hy := by
    have claim (u : T) (c : Claim) (hc : (w'.pc u).claimed = some c) : (w.pc u).claimed = some c := by
      by_cases hu : u = t
      · subst hu
        exact hclaimed c hc
      · rwa [hl.others u hu] at hc
    exact h.agreed x y page page' mode mode' load (claim x _ hx) (claim y _ hy)

omit [NeZero N] [DecidableEq V] [Fintype T] [Fintype V] in
lemma LoadInv.quiet (h : LoadInv w history) (hl : Light w w' t choice)
    (hpage : ∀ f, (w'.pool.frames f).page = (w.pool.frames f).page)
    (hself : (w'.pc t).Filled w'.pool history ∨ w'.pc t = w.pc t)
    (hclaimed : ∀ claim, (w'.pc t).claimed = some claim → (w.pc t).claimed = some claim)
    (hunread : ∀ load, (w'.pc t).unread = some load → (w.pc t).unread = some load) :
    LoadInv w' history := by
  refine h.light hl rfl ?_ (fun _ _ f _ _ => ⟨hpage f, rfl⟩) (fun f _ => .inl ⟨hpage f, rfl⟩)
    hclaimed hunread
  rcases hself with hs | hs
  · exact hs
  · rw [hs]
    refine (h.filled t).congr (fun page f validator _ hv => ?_) fun _ f _ => ⟨hpage f, rfl⟩
    rwa [Pool.validator, hl.touch.files]

omit [NeZero N] [DecidableEq T] [DecidableEq V] [Fintype T] [Fintype V] in
lemma LoadInv.countRead (h : LoadInv w history) (hl : load < w.pool.nextLoad)
    (hz : history.reads load = 0) (hn : ∀ t, (w.pc t).unread ≠ some load) :
    LoadInv w (history.countRead load) := by
  refine ⟨h.filled, h.shown, fun other => ?_, fun other ho => ?_, fun t other ho => ?_, h.agreed⟩
  · rw [LoadHistory.countRead_reads, Function.update_apply]
    split
    · omega
    · exact h.reads other
  · have hne : other ≠ load := by
      rintro rfl
      exact absurd hl (not_lt.mpr ho)
    rw [LoadHistory.countRead_reads, Function.update_of_ne hne]
    exact h.fresh other ho
  · have hne : other ≠ load := by
      rintro rfl
      exact hn t ho
    rw [LoadHistory.countRead_reads, Function.update_of_ne hne]
    exact h.unread t other ho

omit [DecidableEq T] [DecidableEq V] [Fintype T] [Fintype V] in
lemma record_of_critical {turn : Turn N V}
    (hcs : criticalSection opts w.pool (w.pc t) = some turn) :
    history.record w (t, .run) w' = history := by
  cases hpc : w.pc t with
  | newPageBuild =>
    rw [hpc] at hcs
    cases hcs
  | _ => simp [LoadHistory.record, hpc]

theorem LoadInv.step (h : LoadInv w history) (hi : w.Inv opts)
    (hs : BufferPool.step opts w t choice = some w') :
    LoadInv w' (history.record w (t, choice) w') := by
  have ha := step_act hs
  rcases ha.critical_or_light hi.accounted with ⟨turn, rfl, -, hcs, hm, rfl⟩ | hl
  · rw [record_of_critical hcs]
    exact h.critical hi hm
  have fill {page : PageId} {f : Fin N} {frame : BufferFrame} {pc : Pc N V} {origin : Origin}
      (hl : Light w ((w.setFrame f frame).setPc t pc) t choice)
      (hf : (w.pc t).filling = some (page, f))
      (hself : pc.Filled (w.pool.setFrame f frame) (history.setOrigin f origin))
      (hclaimed : ∀ claim, pc.claimed = some claim → (w.pc t).claimed = some claim)
      (hunread : ∀ load, pc.unread = some load → (w.pc t).unread = some load) :
      LoadInv ((w.setFrame f frame).setPc t pc) (history.setOrigin f origin) := by
    have other (g : Fin N) (hg : g ≠ f) :
        (((w.setFrame f frame).setPc t pc).pool.frames g).page = (w.pool.frames g).page ∧
          (history.setOrigin f origin).origin g = history.origin g :=
      ⟨congrArg _ (Function.update_of_ne hg ..), Function.update_of_ne hg ..⟩
    refine h.light hl rfl ?_ (fun u page g hu hg => other g ?_) (fun g hg => .inl (other g ?_)) ?_ ?_
    · rwa [World.setPc_pc]
    · rintro rfl
      exact hu (hi.filling_unique hg hf)
    · rintro rfl
      exact hg (hi.filling_loading hf).2
    · rwa [World.setPc_pc]
    · rwa [World.setPc_pc]
  have wrote {w' : World N T V} {v : GuardVar V} {g : PageGuard N} (hl : Light w w' t choice)
      (hidle : (w.pc t).isIdle = true) (hpc : w'.pc t = w.pc t) (hg : w.guards t v = some g)
      (hpage : ∀ f, f ≠ g.frameId → (w'.pool.frames f).page = (w.pool.frames f).page) :
      LoadInv w' (history.setOrigin g.frameId .written) := by
    have hpin : 0 < (w.pool.frames g.frameId).pinCount := by
      refine demand_pin.mp (Balanced.pos hi.accounted (x := .inr (t, v)) ?_)
      simp [World.holding, hg, guardResources]
    have hres := hi.wellFormed.resident_of_pinned hpin
    have other (f : Fin N) (hf : f ≠ g.frameId) :
        (w'.pool.frames f).page = (w.pool.frames f).page ∧
          (history.setOrigin g.frameId .written).origin f = history.origin f :=
      ⟨hpage f hf, Function.update_of_ne hf ..⟩
    refine h.light hl rfl ?_ (fun u page f hu hf => other f ?_) (fun f _ => ?_) ?_ ?_
    · rw [hpc]
      exact Pc.filled_of_none (Pc.filling_of_idle hidle)
    · rintro rfl
      have := (hi.filling_loading hf).2
      simp [hres] at this
    · by_cases hf : f = g.frameId
      · subst hf
        exact .inr (by simp)
      · exact .inl (other f hf)
    · rw [hpc]
      exact fun _ => id
    · rw [hpc]
      exact fun _ => id
  cases ha with
  | critical _ hcs hm =>
    rw [record_of_critical hcs]
    exact h.critical hi hm
  | @mutate v bytes f epoch hidle hg =>
    simp only [LoadHistory.record, hg]
    exact wrote hl hidle rfl hg fun g hgf => congrArg _ (Function.update_of_ne hgf ..)
  | @readPage page mode load f validator result output hpc =>
    have hloader : (w.pc t).loader = some (page, mode, load) := by
      rw [hpc]
      rfl
    have hv := h.filled t
    rw [hpc] at hv
    simp only [LoadHistory.record, hpc]
    have hf : (w.pc t).filling = some (page, f) := by rw [hpc]; rfl
    refine (fill hl hf ?_ (by simp [hpc, Pc.claimed, Pc.loader])
      (by simp [Pc.unread])).countRead (hi.claimed_started (Pc.claimed_of_loader hloader))
      (h.unread t load (by rw [hpc]; rfl)) fun u hu => ?_
    · cases result with
      | error => trivial
      | ok => exact ⟨by simp, validator, hv, by simp⟩
    · by_cases hut : u = t
      · subst hut
        rw [World.setPc_pc] at hu
        cases hu
      · rw [hl.others u hut] at hu
        obtain ⟨page', mode', hu⟩ := Pc.loader_of_unread hu
        exact hut (hi.loader_unique hu hloader)
  | @build page init f validator hpc =>
    have hv := h.filled t
    rw [hpc] at hv
    simp only [LoadHistory.record, hpc]
    have hf : (w.pc t).filling = some (page, f) := by rw [hpc]; rfl
    refine fill hl hf ?_ (by simp [Pc.claimed, Pc.loader])
      (by simp [Pc.unread, Pc.loader])
    cases hb : (init (w.pool.frames f).page).1 with
    | false => trivial
    | true => exact ⟨by simp, validator, hv, by simp⟩
  | @buildNone page f validator hpc =>
    have hf : (w.pc t).filling = some (page, f) := by
      rw [hpc]
      rfl
    simp only [LoadHistory.record, hpc]
    refine h.light hl rfl ?_ (fun u page g hu hg => ⟨rfl, Function.update_of_ne ?_ ..⟩)
      (fun g hg => .inl ⟨rfl, Function.update_of_ne ?_ ..⟩) ?_ ?_
    · rw [World.setPc_pc]
      trivial
    · rintro rfl
      exact hu (hi.filling_unique hg hf)
    · rintro rfl
      exact hg (hi.filling_loading hf).2
    · simp [Pc.claimed, Pc.loader]
    · simp [Pc.unread, Pc.loader]
  | grant hpc | latchForCopy hpc | copyImage hpc =>
    simp only [LoadHistory.record, hpc]
    refine h.quiet hl (World.latchFrame_page _ _ _) ?_ ?_ ?_
    · rw [World.setPc_pc]
      exact .inl trivial
    · simp [Pc.claimed, Pc.loader, Writer.loader]
    · simp [Pc.unread, Pc.loader, Writer.loader]
  | takeFrom hpc =>
    simp only [LoadHistory.record, hpc]
    refine h.quiet hl (fun _ => rfl) ?_ ?_ ?_
    · rw [World.setPc_pc]
      exact .inl trivial
    · simp [Pc.claimed, Pc.loader]
    · simp [Pc.unread, Pc.loader]
  | registerCount hpc | registerCountFailed hpc | countFailed hpc | reusePage hpc
  | needExtension hpc | extendFailed hpc =>
    simp only [LoadHistory.record]
    refine h.quiet hl (fun _ => rfl) ?_ ?_ ?_
    · rw [World.setPc_pc]
      exact .inl trivial
    · simp [Pc.claimed, Pc.loader]
    · simp [Pc.unread, Pc.loader]
  | synced hpc | syncFailed hpc =>
    simp only [LoadHistory.record]
    refine h.quiet hl (fun _ => rfl) ?_ ?_ ?_
    · rw [World.setPc_pc]
      exact .inl trivial
    · simp [Pc.claimed, Pc.loader, hpc]
    · simp [Pc.unread, Pc.loader, hpc]
  | extended hpc | written hpc | writeFailed hpc =>
    simp only [LoadHistory.record]
    refine h.quiet hl (fun _ => rfl) (.inl ?_) ?_ ?_
    · simp [Pc.Filled]
    · simp [Pc.claimed, Pc.loader, hpc]
    · simp [Pc.unread, Pc.loader, hpc]
  | call hidle =>
    refine h.quiet hl (fun _ => rfl) (.inl ?_) ?_ ?_
    · rw [World.setPc_pc]
      exact Pc.filled_of_none (startCall_filling _)
    · simp [startCall_claimed]
    · intro load hu
      obtain ⟨page, mode, hu⟩ := Pc.loader_of_unread hu
      rw [World.setPc_pc] at hu
      have hc := Pc.claimed_of_loader hu
      rw [startCall_claimed] at hc
      cases hc
  | release hidle | assign hidle =>
    refine h.quiet hl (World.latchFrame_page _ _ _) ?_ ?_ ?_
    · rw [releaseGuard_pc]
      exact .inl trivial
    · simp [Pc.claimed, Pc.loader]
    · simp [Pc.unread, Pc.loader]
  | markDirty => exact h.quiet hl (publishMutation_page _ _) (.inr rfl) (fun _ => id) fun _ => id
  | move _ _ hop =>
    rcases hop with ⟨rfl, -⟩ | ⟨rfl, -⟩ | ⟨rfl, -⟩ <;>
      exact h.quiet hl (fun _ => rfl) (.inr rfl) (fun _ => id) fun _ => id
  | @noGuard op hidle =>
    have same := h.quiet hl (fun _ => rfl) (.inr rfl) (fun _ => id) fun _ => id
    cases op with
    | mutate v bytes =>
      cases hg : w.guards t v with
      | none => simpa only [LoadHistory.record, hg] using same
      | some g =>
        simp only [LoadHistory.record, hg]
        exact wrote hl hidle rfl hg fun _ _ => rfl
    | _ => exact same
  | wake => exact h.quiet hl (fun _ => rfl) (.inr rfl) (fun _ => id) fun _ => id

def loadSystem (opts : BufferPoolOptions) : System (World N T V × LoadHistory N) (T × Choice T V) :=
  (poolSystem opts).track (fun _ => LoadHistory.initial) LoadHistory.record

omit [Fintype T] [Fintype V] [DecidableEq V] [DecidableEq T] in
lemma LoadInv.initial (disk : Disk) :
    LoadInv (World.initial disk : World N T V) LoadHistory.initial where
  filled _ := trivial
  shown f hs := by rcases hs with hs | hs <;> cases hs
  reads _ := Nat.zero_le _
  fresh _ _ := rfl
  unread _ _ _ := rfl
  agreed t u page page' mode mode' load ht := by cases ht

variable {x x' : World N T V × LoadHistory N}

lemma loadInv_of_run (h : Run (loadSystem opts) (fun x a => ClosesAlone x.1 a) x) :
    x.1.Inv opts ∧ LoadInv x.1 x.2 := by
  refine h.invariant (I := fun x => x.1.Inv opts ∧ LoadInv x.1 x.2) ?_ fun x a x' hi hok hs => ?_
  · rintro ⟨w, history⟩ ⟨⟨disk, hw⟩, hh⟩
    dsimp only at hw hh
    rw [hw, hh]
    exact ⟨World.Inv.initial disk, LoadInv.initial disk⟩
  · obtain ⟨hs, hr⟩ := track_step.mp hs
    rw [hr]
    exact ⟨hi.1.step hok hs, hi.2.step hi.1 hs⟩

/-- One load of a page at a time, with one loader, one read and a claim for each of its fetches;
and no guard on bytes that were not checked. -/
structure World.OneLoad (w : World N T V) (history : LoadHistory N) : Prop where
  sole : ∀ t u page mode mode' load load', (w.pc t).claimed = some (page, mode, load) →
    (w.pc u).claimed = some (page, mode', load') → (w.pool.loads load).done = false →
    (w.pool.loads load').done = false → load = load'
  loader : ∀ load, load < w.pool.nextLoad → (w.pool.loads load).done = false →
    ∃! t, ∃ page mode, (w.pc t).loader = some (page, mode, load)
  reads : ∀ load, history.reads load ≤ 1
  claims : ∀ load, (w.pool.loads load).done = false → (w.pool.loads load).claims =
    (Finset.univ.filter fun t => (w.pc t).claimed.map (fun claim => claim.2.2) = some load).card
  shared : ∀ t u page page' mode mode' load, (w.pc t).claimed = some (page, mode, load) →
    (w.pc u).claimed = some (page', mode', load) → page = page'
  joinable : ∀ page entry, Fetchable w.pool page → w.pool.pageTable.lookup page = some entry →
    entry.state = .loadIntent ∨ entry.state = .loading → entry.load.isSome = true
  vouched : ∀ t v g, w.guards t v = some g →
    ∃ validator, w.pool.validator (w.pool.frames g.frameId).page.id.fileId = some validator ∧
      (history.origin g.frameId).Vouched validator (w.pool.frames g.frameId).page

/-- What a step does to a load and to the fetches that claimed it. -/
structure LoadStep (x x' : World N T V × LoadHistory N) (t : T) (choice : Choice T V) : Prop where
  final : ∀ load, (x.1.pool.loads load).done = true → x'.1.pool.loads load = x.1.pool.loads load
  returns : ∀ u page mode load, (x.1.pc u).claimed = some (page, mode, load) →
    (x'.1.pc u).claimed = some (page, mode, load) ∨
      ∃ result, (x'.1.pool.loads load).result = some result ∧ x'.1.pc u = returnPc page mode result
  failed : ∀ page mode load error, (x.1.pc t).loader = some (page, mode, load) →
    x'.1.pc t = .idle (.fetch page mode (.error error)) →
    x'.1.pool.pageTable.lookup page = none ∧ ∀ f, (x.1.pc t).builtFrame = some f →
      (x'.1.pool.frames f).state = .free ∧ f ∈ x'.1.pool.freeList
  published : ∀ page mode load f, (x.1.pc t).loader = some (page, mode, load) →
    x'.1.pc t = .makeGuard (.fetch page mode (.ok ())) f mode →
    x'.1.pool.pageTable.lookup page = some ⟨.resident, f, none⟩ ∧
      (x'.1.pool.frames f).state = .resident ∧ (x'.1.pool.frames f).page.id = page ∧
      (x'.1.pool.frames f).pinCount = (x.1.pool.loads load).claims ∧
      ∃ validator, x.1.pool.validator page.fileId = some validator ∧
        Passed validator true (x'.1.pool.frames f).page
  restarts : ∀ page mode hitNotified, choice = .run → x.1.pc t = .pinPage page mode hitNotified →
    Fetchable x.1.pool page → x.1.pool.pageTable.lookup page = none →
    x'.1.pc t = .acquireFrame (.fetch page mode x.1.pool.nextLoad) false ∧
      x'.1.pool.loads x.1.pool.nextLoad = ⟨1, false, none, BufferError.default⟩ ∧
      x'.2.reads x.1.pool.nextLoad = 0

omit [DecidableEq T] [DecidableEq V] in
/-- A fetch that passes the address check never joins the page of an unfinished `NewPage`. -/
lemma World.Inv.joinable (h : w.Inv opts) {entry : PageTableEntry N} (hf : Fetchable w.pool page)
    (he : w.pool.pageTable.lookup page = some entry)
    (hs : entry.state = .loadIntent ∨ entry.state = .loading) : entry.load.isSome = true := by
  rcases hs with hs | hs
  · exact ((h.wellFormed.bindings.entry page entry he).intent hs).2
  · cases hl : entry.load with
    | some => rfl
    | none =>
      obtain ⟨file, hfile, ha⟩ := h.wellFormed.addressed page entry he
      obtain ⟨-, known, hk, -, -, hlt⟩ := hf.file
      obtain rfl := Option.some.inj (hfile.symm.trans hk)
      simp only [PageTableEntry.Addressed, hs, hl, and_self, if_true] at ha
      rw [ha.1] at hlt
      exact absurd hlt (UInt64.lt_irrefl _)

lemma LoadInv.oneLoad (h : LoadInv w history) (hi : w.Inv opts) : w.OneLoad history where
  sole t u page mode mode' load load' ht hu hd hd' := by
    obtain ⟨entry, he, hl⟩ := h.claims_entry hi ht hd
    obtain ⟨entry', he', hl'⟩ := h.claims_entry hi hu hd'
    obtain rfl := Option.some.inj (he.symm.trans he')
    exact Option.some.inj (hl.symm.trans hl')
  loader load hl hd := by
    obtain ⟨t, page, mode, ht⟩ := hi.exists_loader hl hd
    refine ⟨t, ⟨page, mode, ht⟩, ?_⟩
    rintro u ⟨page', mode', hu⟩
    exact hi.loader_unique hu ht
  reads := h.reads
  claims load hd := by
    have hsum : total (fun x => (w.holding x).count (.load load .claim)) =
        (w.pool.loads load).claims := by
      rw [hi.accounted (.load load .claim)]
      simp [Pool.demand, LoadOperation.demand, hd]
    rw [← hsum, total, Fintype.sum_sum_type, Finset.card_filter]
    have hguards : ∑ x : T × GuardVar V, (w.holding (.inr x)).count (.load load .claim) = 0 := by
      refine Finset.sum_eq_zero fun x _ => ?_
      cases hg : w.guards x.1 x.2 <;> simp [World.holding, hg, guardResources]
    rw [hguards, Nat.add_zero]
    exact Finset.sum_congr rfl fun t _ => Pc.count_claim (w.pc t) hd
  shared := h.agreed
  joinable page entry := hi.joinable
  vouched t v g hg := by
    have hpin : 0 < (w.pool.frames g.frameId).pinCount := by
      refine demand_pin.mp (Balanced.pos hi.accounted (x := .inr (t, v)) ?_)
      simp [World.holding, hg, guardResources]
    exact h.shown g.frameId (.inl (hi.wellFormed.resident_of_pinned hpin))

omit [Fintype T] [Fintype V] in
lemma Act.loader (ha : Act opts w t choice w') (hl : (w.pc t).loader = some (page, mode, load)) :
    (∃ turn, w' = w.finish opts t turn ∧ Move opts w.pool (w.pc t) turn.pool turn.pc) ∨
      (w'.pc t).loader = some (page, mode, load) := by
  have idle (hidle : (w.pc t).isIdle = true) : False := by
    obtain ⟨last, hpc⟩ := Pc.exists_idle hidle
    rw [hpc] at hl
    cases hl
  cases ha with
  | @critical turn hlock hcs hm => exact .inl ⟨turn, rfl, hm⟩
  | readPage hpc | synced hpc | syncFailed hpc =>
    rw [World.setPc_pc]
    rw [hpc] at hl
    exact .inr hl
  | written hpc | writeFailed hpc =>
    rw [hpc] at hl
    exact .inr (by simpa [Pc.loader] using hl)
  | wake => exact .inr hl
  | call hidle | mutate hidle | markDirty hidle | release hidle | assign hidle | move hidle
  | noGuard hidle => exact (idle hidle).elim
  | grant hpc | latchForCopy hpc | copyImage hpc | buildNone hpc | build hpc | takeFrom hpc
  | registerCount hpc | registerCountFailed hpc | countFailed hpc | reusePage hpc
  | needExtension hpc | extended hpc | extendFailed hpc =>
    rw [hpc] at hl
    cases hl

lemma Act.claimed (ha : Act opts w t choice w') (hi : w.Inv opts)
    (hc : (w.pc u).claimed = some (page, mode, load)) :
    (w'.pc u).claimed = some (page, mode, load) ∨
      ∃ result, (w'.pool.loads load).result = some result ∧ w'.pc u = returnPc page mode result := by
  by_cases hu : u = t
  · subst hu
    rcases Pc.claimed_cases hc with hj | hl
    · cases ha with
      | critical hlock hcs hm =>
        rw [World.finish_pc]
        exact hm.claimed hi.wellFormed (hi.ready u) hc
      | wake => exact .inl hc
      | call hidle | mutate hidle | markDirty hidle | release hidle | assign hidle | move hidle
      | noGuard hidle =>
        rw [hj] at hidle
        cases hidle
      | _ => simp_all
    · rcases ha.loader hl with ⟨turn, rfl, hm⟩ | hl
      · rw [World.finish_pc]
        exact hm.claimed hi.wellFormed (hi.ready u) hc
      · exact .inl (Pc.claimed_of_loader hl)
  · rw [ha.others hu]
    exact .inl hc

omit [Fintype T] [Fintype V] in
lemma Act.restarts {hitNotified : Bool} (ha : Act opts w t .run w')
    (hpc : w.pc t = .pinPage page mode hitNotified) (hf : Fetchable w.pool page)
    (hn : w.pool.pageTable.lookup page = none) :
    w'.pc t = .acquireFrame (.fetch page mode w.pool.nextLoad) false ∧
      w'.pool.loads w.pool.nextLoad = ⟨1, false, none, BufferError.default⟩ := by
  have hf : checkFetchable w.pool page = .ok () := hf
  cases ha with
  | critical hlock hcs hm =>
    rw [World.finish_pc]
    rw [hpc] at hcs
    obtain rfl := Option.some.inj hcs
    simp only [pinPage, hf, hn, installIntent]
    exact ⟨trivial, by simp [World.finish, LoadOperation.initial]⟩
  | _ => simp_all

/-- A published load shows bytes that passed every check. -/
lemma LoadInv.passed (h : LoadInv w history) {pool' : Pool N} (hi : w.Inv opts)
    (hm : Move opts w.pool (w.pc t) pool' (.makeGuard (.fetch page mode (.ok ())) f mode))
    (hl : (w.pc t).loader = some (page, mode, load)) :
    ∃ validator, w.pool.validator page.fileId = some validator ∧
      Passed validator true (pool'.frames f).page := by
  obtain ⟨hpc, -, -, hp, -⟩ := hm.load_published hi.wellFormed (hi.ready t) hl
  have hfill := h.filled t
  rw [hpc] at hfill
  obtain ⟨-, validator, hv, hout⟩ := hfill
  rw [hp]
  exact ⟨validator, hv, validateLoadedPage_valid hout.symm⟩

lemma LoadInv.loadStep (h : LoadInv x.1 x.2) (hi : x.1.Inv opts)
    (hs : (loadSystem opts).step x (t, choice) = some x') : LoadStep x x' t choice := by
  obtain ⟨hs, hrec⟩ := track_step.mp hs
  have ha := step_act hs
  refine ⟨fun load hd => ?_, fun u page mode load => ha.claimed hi,
    fun page mode load error hl hpc => ?_, fun page mode load f hl hpc => ?_,
    fun page mode hitNotified hc hpc hf hn => ?_⟩
  · rcases ha.critical_or_light hi.accounted with ⟨turn, -, -, -, hm, hw⟩ | hl
    · rw [hw]
      exact hm.finished hi.wellFormed (hi.ready t) hd
    · rw [hl.touch.loads]
  · rcases ha.loader hl with ⟨turn, hw, hm⟩ | hl
    · rw [hw, World.finish_pc] at hpc
      rw [hw]
      exact Move.load_failed (hpc ▸ hm) hl
    · rw [hpc] at hl
      cases hl
  · rcases ha.loader hl with ⟨turn, hw, hm⟩ | hl
    · rw [hw, World.finish_pc] at hpc
      rw [hpc] at hm
      obtain ⟨-, he, hstate, -, hid, hpin⟩ := hm.load_published hi.wellFormed (hi.ready t) hl
      rw [hw]
      exact ⟨he, hstate, hid, hpin, h.passed hi hm hl⟩
    · rw [hpc] at hl
      cases hl
  · subst hc
    obtain ⟨hnext, hload⟩ := ha.restarts hpc hf hn
    refine ⟨hnext, hload, ?_⟩
    rw [hrec]
    simp only [LoadHistory.record, hpc]
    exact h.fresh _ le_rfl

section Sample

def samplePage : PageId := ⟨sampleFile, 1⟩

def sampleReadError : DiskError := ⟨.systemError, .readPage, sampleFile, 1, "sample", 5, "read failed"⟩

/-- `false` joins the load of `true`, whose read fails. -/
def sharedFailure : List (Bool × Choice Bool Unit) :=
  sampleRegister true 2 ++
    [(true, .call (.fetch samplePage .shared)), (true, .run), (true, .run), (true, .run),
      (false, .call (.fetch samplePage .exclusive)), (false, .run), (false, .run),
      (true, .readPage (.error sampleReadError) PageBytes.zero), (true, .run), (false, .run)]

lemma sharedFailure_runs : (execute (loadSystem sampleOptions) (fun x a => ClosesAlone x.1 a)
    ((World.initial sampleDisk : World 1 Bool Unit), LoadHistory.initial) sharedFailure).isSome := by
  decide +kernel

def sharedFailureWorld : World 1 Bool Unit × LoadHistory 1 := Option.get _ sharedFailure_runs

lemma sharedFailure_run :
    Run (loadSystem sampleOptions) (fun x a => ClosesAlone x.1 a) sharedFailureWorld :=
  Run.of_execute (S := loadSystem sampleOptions) (.start ⟨⟨sampleDisk, rfl⟩, rfl⟩)
    sharedFailure_runs

end Sample

end DBlusBlus.BufferPool
