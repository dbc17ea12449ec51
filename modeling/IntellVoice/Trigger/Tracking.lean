import IntellVoice.Trigger.Delivery

/-! Helper and session keep separate copies of a model's state. -/

namespace IntellVoice.Trigger
variable {H : Type*}

namespace TriggerSession

lemma unloadModel_cases (hal : Hal H) (handle : Int) {s : TriggerSession H} (hadapter : s.adapter) :
    (s.unloadModel hal handle).2.loadedModels.find? handle = none ∧ (∀ h, h ≠ handle →
      (s.unloadModel hal handle).2.loadedModels.find? h = s.loadedModels.find? h) ∧
    ((s.unloadModel hal handle).2.hal = s.hal ∨
      (s.unloadModel hal handle).2.hal = (hal.unloadModel handle s.hal).2) := by
  have herase : ∀ h, h ≠ handle →
      (s.loadedModels.erase handle).find? h = s.loadedModels.find? h := by
    intro h hne
    rw [OrderedMap.find?_erase, if_neg hne]
  unfold TriggerSession.unloadModel
  rw [if_neg (by simp [hadapter])]
  split
  · exact ⟨‹_›, fun _ _ => rfl, .inl rfl⟩
  dsimp only
  split
  · exact ⟨OrderedMap.find?_erase_self _ _, herase, .inl rfl⟩
  · exact ⟨OrderedMap.find?_erase_self _ _, herase, .inr rfl⟩

lemma loadModel_cases (hal : Hal H) (model : Option GenericTriggerModel) (s : TriggerSession H) :
    (∃ m, (s.loadModel hal model).1 = 0 ∧ (hal.loadModel m s.hal).1 = 0 ∧
      (s.loadModel hal model).2.1 = (hal.loadModel m s.hal).2.1 ∧
      (s.loadModel hal model).2.2 = { s with
        hal := (hal.loadModel m s.hal).2.2,
        loadedModels := s.loadedModels.insertNew (hal.loadModel m s.hal).2.1 .loaded }) ∨
    ((s.loadModel hal model).1 ≠ 0 ∧
      (s.loadModel hal model).2.2.loadedModels = s.loadedModels ∧
      ((s.loadModel hal model).2.2.hal = s.hal ∨
        ∃ m, (s.loadModel hal model).2.2.hal = (hal.loadModel m s.hal).2.2)) := by
  unfold TriggerSession.loadModel
  split
  · exact .inr ⟨by simp, rfl, .inl rfl⟩
  split
  · exact .inr ⟨by simp, rfl, .inl rfl⟩
  rename_i m
  split
  · exact .inr ⟨by simp, rfl, .inl rfl⟩
  dsimp only
  split
  · exact .inr ⟨‹_›, rfl, .inr ⟨m, rfl⟩⟩
  · exact .inl ⟨m, not_not.1 ‹_›, not_not.1 ‹_›, rfl, rfl⟩

end TriggerSession

def Cell.entry (c : Cell (TriggerSession H)) (handle : Int) : Option SessionModelState :=
  c.io.conn.loadedModels.find? handle

variable {io : Io (TriggerSession H)}

lemma SessionSound.entry_getModule (hio : SessionSound io) (hal : Hal H) (handle : Int) :
    (io.getModule (sessionModule hal)).2.conn.loadedModels.find? handle =
      io.conn.loadedModels.find? handle := by
  unfold Io.getModule
  split
  · rfl
  rename_i hready
  have hempty := hio.2 (by simpa using hready)
  change (io.conn.getModule hal).2.loadedModels.find? handle = _
  rw [hempty]
  unfold TriggerSession.getModule
  split <;> rfl

lemma SessionSound.entry_setParams (hio : SessionSound io) (hal : Hal H) (key value : String)
    (handle : Int) :
    (io.setParameterForInputPipe (sessionModule hal) key value).2.conn.loadedModels.find? handle =
      io.conn.loadedModels.find? handle := by
  rw [← hio.entry_getModule hal handle]
  simp only [Io.setParameterForInputPipe]
  split
  · rfl
  change ((io.getModule (sessionModule hal)).2.conn.setParams hal key value
    ).2.loadedModels.find? handle = _
  unfold TriggerSession.setParams
  split <;> rfl

end IntellVoice.Trigger
