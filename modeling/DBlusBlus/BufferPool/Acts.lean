import DBlusBlus.BufferPool.Moves

/-! What one step of a thread can do to the whole world. -/

namespace DBlusBlus.BufferPool

variable {N : ℕ} {T V : Type} [DecidableEq T] [DecidableEq V] [NeZero N]

inductive Act (opts : BufferPoolOptions) (w : World N T V) (t : T) :
    Choice T V → World N T V → Prop
  | critical {turn} : w.canLock t → criticalSection opts w.pool (w.pc t) = some turn →
    Move opts w.pool (w.pc t) turn.pool turn.pc → Act opts w t .run (w.finish opts t turn)
  | grant {result f mode} : w.pc t = .makeGuard result f mode →
    (w.pool.frames f).latch.canAcquire mode = true →
    Act opts w t .run (((w.latchFrame f ((w.pool.frames f).latch.acquire mode)).setGuard t none
      (some ⟨f, (w.pool.frames f).bindingEpoch, mode⟩)).setPc t (.idle result))
  | latchForCopy {f page bindingEpoch caller} :
    w.pc t = .latchForCopy f page bindingEpoch caller →
    (w.pool.frames f).latch.canAcquire .shared = true →
    Act opts w t .run ((w.latchFrame f ((w.pool.frames f).latch.acquire .shared)).setPc t
      (.copyImage f page bindingEpoch caller))
  | copyImage {f page bindingEpoch caller} : w.pc t = .copyImage f page bindingEpoch caller →
    Act opts w t .run ((w.latchFrame f ((w.pool.frames f).latch.release .shared)).setPc t
      (.writePage
        (.flush f page bindingEpoch (w.pool.frames f).modificationGeneration caller)
        (finalizePageChecksum (w.pool.frames f).page.bytes)))
  | buildNone {page f validator} : w.pc t = .newPageBuild page none f validator →
    Act opts w t .run (w.setPc t (.newPageFinish page f false .corrupt))
  | build {page init f validator} : w.pc t = .newPageBuild page (some init) f validator →
    Act opts w t .run ((w.setFrame f { w.pool.frames f with
        page := ⟨(w.pool.frames f).page.id, (init (w.pool.frames f).page).2⟩ }).setPc t
      (.newPageFinish page f (init (w.pool.frames f).page).1
        (if (init (w.pool.frames f).page).1 then
          validateLoadedPage ⟨(w.pool.frames f).page.id, (init (w.pool.frames f).page).2⟩
            validator false
        else .corrupt)))
  | takeFrom {destination source} : w.pc t = .takeFrom destination source →
    Act opts w t .run
      ((moveGuard w t t destination source).setPc t (.idle .guardReleased))
  | call {call} : (w.pc t).isIdle = true → w.guards t none = none →
    Act opts w t (.call call) (w.setPc t (startCall call))
  | mutate {v bytes f epoch} : (w.pc t).isIdle = true →
    w.guards t v = some ⟨f, epoch, .exclusive⟩ →
    Act opts w t (.guard (.mutate v bytes)) (w.setFrame f { w.pool.frames f with
      page := ⟨(w.pool.frames f).page.id, bytes⟩ })
  | markDirty {v f epoch} : (w.pc t).isIdle = true → w.canLock t →
    w.guards t v = some ⟨f, epoch, .exclusive⟩ →
    Act opts w t (.guard (.markDirty v)) { w with pool := publishMutation w.pool f }
  | release {v g} : (w.pc t).isIdle = true → w.guards t v = some g →
    Act opts w t (.guard (.release v)) (releaseGuard w t v g none)
  | assign {destination source g} : (w.pc t).isIdle = true → destination ≠ source →
    w.guards t destination = some g →
    Act opts w t (.guard (.moveAssign destination source))
      (releaseGuard w t destination g (some (destination, source)))
  | move {op u destination source} : (w.pc t).isIdle = true →
    w.guards u destination = none →
    op = .moveConstruct destination source ∧ u = t ∨
      op = .moveAssign destination source ∧ u = t ∨
      op = .pass u destination source ∧ u ≠ t ∧ (w.pc u).isIdle = true →
    Act opts w t (.guard op) (moveGuard w t u destination source)
  | noGuard {op} : (w.pc t).isIdle = true → Act opts w t (.guard op) w
  | registerCount {file validator count} : w.pc t = .registerPageCount file validator →
    Act opts w t (.pageCount (.ok count)) (w.setPc t (.registerFile file validator count))
  | registerCountFailed {file validator error} : w.pc t = .registerPageCount file validator →
    Act opts w t (.pageCount (.error error)) (w.setPc t (.idle (.registerFile file (.error
      (makeError (readErrorCode error) .registerFile ⟨file, invalidPageNo⟩
        "cannot determine the file's page count" (some error))))))
  | countFailed {file init f published error} : w.pc t = .newPageCount file init f published →
    Act opts w t (.pageCount (.error error))
      (w.setPc t (.newPageReserved file init f (.error error)))
  | reusePage {file init f published physical} : w.pc t = .newPageCount file init f published →
    published < physical →
    Act opts w t (.pageCount (.ok physical))
      (w.setPc t (.newPageReserved file init f (.ok published)))
  | needExtension {file init f published physical} :
    w.pc t = .newPageCount file init f published → ¬ published < physical →
    Act opts w t (.pageCount (.ok physical)) (w.setPc t (.newPageExtend file init f))
  | extended {file init f pageNo} : w.pc t = .newPageExtend file init f →
    Act opts w t (.extendFile (.ok pageNo))
      { w.setPc t (.newPageReserved file init f (.ok pageNo)) with disk := { w.disk with
        pageCount := Function.update w.disk.pageCount file (w.disk.pageCount file + 1) } }
  | extendFailed {file init f error} : w.pc t = .newPageExtend file init f →
    Act opts w t (.extendFile (.error error))
      (w.setPc t (.newPageReserved file init f (.error error)))
  | readPage {page mode load f validator result output} :
    w.pc t = .readPage page mode load f validator →
    Act opts w t (.readPage result output) ((w.setFrame f { w.pool.frames f with
        page := ⟨(w.pool.frames f).page.id, output⟩ }).setPc t
      (.finishLoad page mode load f result (match result with
        | .ok () => validateLoadedPage ⟨(w.pool.frames f).page.id, output⟩ validator true
        | .error _ => .valid)))
  | written {writer image torn} : w.pc t = .writePage writer image →
    Act opts w t (.writePage (.ok ()) torn)
      { w.setPc t (.syncFile writer image) with disk := { w.disk with
        bytes := Function.update w.disk.bytes writer.pageId image } }
  | writeFailed {writer image error torn} : w.pc t = .writePage writer image →
    Act opts w t (.writePage (.error error) torn)
      { w.setPc t (.finishWrite writer (.error (makeError .rawIoFailure writer.operation
          writer.pageId "page write failed" (some error)))) with disk := { w.disk with
        bytes := Function.update w.disk.bytes writer.pageId torn } }
  | synced {writer image} : w.pc t = .syncFile writer image →
    Act opts w t (.syncFile (.ok ())) (w.setPc t (.finishWrite writer (.ok ())))
  | syncFailed {writer image error} : w.pc t = .syncFile writer image →
    Act opts w t (.syncFile (.error error)) (w.setPc t (.finishWrite writer (.error
      (makeError .rawIoFailure writer.operation writer.pageId
        "page file synchronization failed" (some error)))))
  | wake : Act opts w t .wake { w with asleep := Function.update w.asleep t false }

section Inversion

variable {opts : BufferPoolOptions} {w w' : World N T V} {t : T}

lemma runStep_act (h : runStep opts w t = some w') : Act opts w t .run w' := by
  unfold runStep at h
  split at h
  · dsimp only at h
    split at h
    · obtain rfl := Option.some.inj h
      exact .grant ‹_› ‹_›
    · cases h
  · dsimp only at h
    split at h
    · obtain rfl := Option.some.inj h
      exact .latchForCopy ‹_› ‹_›
    · cases h
  · obtain rfl := Option.some.inj h
    exact .copyImage ‹_›
  · dsimp only at h
    split at h
    · obtain rfl := Option.some.inj h
      exact .buildNone ‹_›
    · obtain rfl := Option.some.inj h
      exact .build ‹_›
  · obtain rfl := Option.some.inj h
    exact .takeFrom ‹_›
  · split at h
    · rename_i turn hs
      split at h
      · obtain rfl := Option.some.inj h
        exact .critical ‹_› hs (criticalSection_move hs)
      · cases h
    · cases h

lemma guardStep_act {op : GuardOp T V} (h : guardStep w t op = some w') :
    Act opts w t (.guard op) w' := by
  simp only [guardStep] at h
  split at h
  case isFalse => cases h
  case isTrue hi =>
    cases op with
    | mutate v bytes =>
      dsimp only at h
      split at h
      · obtain rfl := Option.some.inj h
        exact .mutate hi ‹_›
      · cases h
    | markDirty v =>
      dsimp only at h
      split at h
      · split at h
        · obtain rfl := Option.some.inj h
          exact .markDirty hi ‹_› ‹_›
        · cases h
      · cases h
    | release v =>
      dsimp only at h
      split at h
      · obtain rfl := Option.some.inj h
        exact .release hi ‹_›
      · obtain rfl := Option.some.inj h
        exact .noGuard hi
    | moveConstruct destination source =>
      dsimp only at h
      split at h
      · obtain rfl := Option.some.inj h
        exact .move hi ‹_› (.inl ⟨rfl, rfl⟩)
      · cases h
    | moveAssign destination source =>
      dsimp only at h
      split at h
      · obtain rfl := Option.some.inj h
        exact .noGuard hi
      · split at h
        · obtain rfl := Option.some.inj h
          exact .assign hi ‹_› ‹_›
        · obtain rfl := Option.some.inj h
          exact .move hi ‹_› (.inr (.inl ⟨rfl, rfl⟩))
    | pass u destination source =>
      dsimp only at h
      split at h
      · rename_i hu
        obtain rfl := Option.some.inj h
        exact .move hi hu.2.2 (.inr (.inr ⟨rfl, hu.1, hu.2.1⟩))
      · cases h

lemma pageCountStep_act {result : DiskResult PageNo} (h : pageCountStep w t result = some w') :
    Act opts w t (.pageCount result) w' := by
  rw [pageCountStep] at h
  split at h
  · split at h
    · obtain rfl := Option.some.inj h
      exact .registerCount ‹_›
    · obtain rfl := Option.some.inj h
      exact .registerCountFailed ‹_›
  · split at h
    · obtain rfl := Option.some.inj h
      exact .countFailed ‹_›
    · split at h
      · obtain rfl := Option.some.inj h
        exact .reusePage ‹_› ‹_›
      · obtain rfl := Option.some.inj h
        exact .needExtension ‹_› ‹_›
  · cases h

theorem step_act {choice : Choice T V} (h : step opts w t choice = some w') :
    Act opts w t choice w' := by
  cases choice with
  | run => exact runStep_act h
  | call call =>
    simp only [step, callStep] at h
    split at h
    · rename_i hc
      obtain rfl := Option.some.inj h
      exact .call hc.1 hc.2
    · cases h
  | guard op => exact guardStep_act h
  | pageCount result => exact pageCountStep_act h
  | extendFile result =>
    simp only [step, extendFileStep] at h
    split at h
    · cases result with
      | ok pageNo =>
        obtain rfl := Option.some.inj h
        exact .extended ‹_›
      | error error =>
        obtain rfl := Option.some.inj h
        exact .extendFailed ‹_›
    · cases h
  | readPage result output =>
    simp only [step, readPageStep] at h
    split at h
    · obtain rfl := Option.some.inj h
      exact .readPage ‹_›
    · cases h
  | writePage result torn =>
    simp only [step, writePageStep] at h
    split at h
    · cases result with
      | ok =>
        obtain rfl := Option.some.inj h
        exact .written ‹_›
      | error error =>
        obtain rfl := Option.some.inj h
        exact .writeFailed ‹_›
    · cases h
  | syncFile result =>
    simp only [step, syncFileStep] at h
    split at h
    · cases result with
      | ok =>
        obtain rfl := Option.some.inj h
        exact .synced ‹_›
      | error error =>
        obtain rfl := Option.some.inj h
        exact .syncFailed ‹_›
    · cases h
  | wake =>
    obtain rfl := Option.some.inj h
    exact .wake

end Inversion

end DBlusBlus.BufferPool
