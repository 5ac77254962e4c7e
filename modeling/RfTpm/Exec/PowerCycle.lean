import RfTpm.Exec.ReadBounds
import RfTpm.Nv.Refinement

/-!
# The map across a power cycle

The committed image is all a startup has: it rebuilds the RAM and `s_maxCounter` from it.
-/

namespace RfTpm

/-- A startup changes of an entry only attributes of an index that are not fixed. -/
def NvEntry.Survives : NvEntry → NvEntry → Prop
  | .index x, .index y => y.data = x.data ∧ ∃ a : TpmaNv,
      a.static = x.info.attributes.static ∧ y.info = x.info.withAttributes a
  | e, e' => e' = e

lemma NvEntry.Survives.refl (e : NvEntry) : e.Survives e := by
  cases e with
  | index x => exact ⟨rfl, _, rfl, rfl⟩
  | evict e => rfl

lemma Slot.survives_startup (type : StartupType) (prev : UInt16) (t : Slot) :
    t.entry.Survives (t.startup type prev).entry := by
  unfold startup
  split
  · rw [entry_restore]
    exact .refl _
  · rw [entry_updateLive]
    cases t with
    | plain p =>
      simp only [restore, updatePlain]
      split
      · exact ⟨rfl, _, static_nvSetStartupAttributes _ _, rfl⟩
      · exact .refl _
    | orderly o => exact .refl _
    | evict e => rfl

/-- **The map survives a power cycle.** After any run of allocations that was committed, whatever
the RAM then holds, a startup that passes its checks succeeds, and finds the map and `s_maxCounter`
again. -/
theorem startup_refines_map {s : Nv} (h : allocSystem.Reach s) (s₀ : Nv)
    (hfile : s₀.file = s.commitImage) (c : PowerCycle) (i : StartupInput) (startupType : UInt16)
    (haccepted : StartupAccepted i startupType (tpmInit c s₀).2) (hcrypt : i.cryptOk = true)
    (hpcr : i.pcrOk = true) :
    ∃ es es' s', Represents s es ∧ es.Forall₂ NvEntry.Survives es' ∧
      tpm2Startup i startupType (tpmInit c s₀).2 = (TPM_RC_SUCCESS, s') ∧ Represents s' es' ∧
      s'.maxCounter = s.maxCounter := by
  obtain ⟨ts, hinv⟩ := alloc_inv h
  have himage := hinv.rep.commitImage
  rw [← hfile] at himage
  obtain ⟨s', hrun, hs'⟩ := haccepted.started himage rfl hcrypt hpcr
  refine ⟨_, _, s', hinv.rep.represents, ?_, hrun, (hs'.maxCounter ▸ hs'.rep).represents,
    hs'.maxCounter⟩
  rw [← entries_committed s.updateNv]
  simp only [entries, List.forall₂_map_left_iff, List.forall₂_map_right_iff, List.forall₂_same]
  exact fun t _ => t.survives_startup _ _

theorem startup_refines_map_sample : ∃ (s s₀ s' : Nv) (es es' : List NvEntry),
    allocSystem.Reach s ∧ s₀.file = s.commitImage ∧ Represents s es ∧
    handles es = sampleHandles ∧ es.Forall₂ NvEntry.Survives es' ∧
    tpm2Startup quietStartup TPM_SU_CLEAR (tpmInit quietCycle s₀).2 = (TPM_RC_SUCCESS, s') ∧
    Represents s' es' ∧ s'.maxCounter = s.maxCounter := by
  obtain ⟨s, ts, hreach, hinv, hhandles⟩ := exists_sample
  obtain ⟨es, es', s', hes, hsurvives, hrun, hes', hmax⟩ := startup_refines_map
    hreach.of_restrict { s with file := s.commitImage } rfl quietCycle quietStartup TPM_SU_CLEAR
    ⟨rfl, by simp [quietStartup], rfl⟩ rfl rfl
  refine ⟨s, _, s', es, es', hreach.of_restrict, rfl, hes, ?_, hsurvives, hrun, hes', hmax⟩
  rw [hes.handles_eq hinv.rep.represents, handles_entries, hhandles]

end RfTpm
