import GameBundle.Include.Effect
import GameBundle.Proofs.Text.Ordered

/-!
# Effect scripts and the effects in use

The list of effect scripts shows which effect types are in use somewhere, up to lower case,
and nothing else of the project: not where they are used, how often, or in which order.
-/

namespace GameBundle.Project

variable {project other : Project}

/-- Whether an effect of some layer of some layout has a type. -/
def UsesEffect (project : Project) (effectType : String) : Prop :=
  ∃ layout ∈ project.layouts, ∃ layer ∈ layout.layers, ∃ effect ∈ layer.effects,
    effect.effectType = effectType

/-- Whether a text is the lower-case form of a type in use. The empty type does not count. -/
def UsesLowered (project : Project) (lowered : String) : Prop :=
  ∃ effectType, effectType ≠ "" ∧ project.UsesEffect effectType ∧ Text.lower effectType = lowered

theorem mem_effectTypes {effectType : String} :
    effectType ∈ project.effectTypes ↔ project.UsesEffect effectType := by
  simp [effectTypes, UsesEffect]

theorem mem_effectScripts {script : String} : script ∈ project.effectScripts ↔
    ∃ lowered, project.UsesLowered lowered ∧ script = "effects/" ++ lowered ++ ".js" := by
  unfold effectScripts
  rw [Text.mem_ordered, List.mem_map]
  constructor
  · rintro ⟨effectType, listed, rfl⟩
    obtain ⟨used, named⟩ := List.mem_filter.mp listed
    exact ⟨_, ⟨effectType, of_decide_eq_true named, mem_effectTypes.mp used, rfl⟩, rfl⟩
  · rintro ⟨_, ⟨effectType, named, used, rfl⟩, rfl⟩
    refine ⟨effectType, List.mem_filter.mpr ⟨mem_effectTypes.mpr used, ?_⟩, rfl⟩
    exact decide_eq_true named

theorem script_mem_effectScripts {lowered : String} :
    "effects/" ++ lowered ++ ".js" ∈ project.effectScripts ↔ project.UsesLowered lowered := by
  rw [mem_effectScripts]
  constructor
  · rintro ⟨same, used, text⟩
    rw [String.append_left_inj, String.append_right_inj] at text
    exact text ▸ used
  · exact fun used => ⟨lowered, used, rfl⟩

theorem effectScripts_eq_iff : project.effectScripts = other.effectScripts ↔
    ∀ lowered, project.UsesLowered lowered ↔ other.UsesLowered lowered := by
  constructor
  · intro same lowered
    rw [← script_mem_effectScripts, same, script_mem_effectScripts]
  · intro same
    apply Text.ordered_congr
    intro script
    refine (Text.mem_ordered.symm.trans ?_).trans Text.mem_ordered
    change script ∈ project.effectScripts ↔ script ∈ other.effectScripts
    simp only [mem_effectScripts, same]

/-- Effect scripts grow strictly by their bytes and are those of the lower-case forms of the
types in use, so two projects have the same list exactly if they use the same types up to
lower case. -/
theorem effectScripts_of_types (project : Project) :
    (project.effectScripts.Pairwise fun one other => Text.bytes one < Text.bytes other) ∧
    project.effectScripts.Nodup ∧
    (∀ script, script ∈ project.effectScripts ↔
      ∃ lowered, project.UsesLowered lowered ∧ script = "effects/" ++ lowered ++ ".js") ∧
    ∀ other : Project, project.effectScripts = other.effectScripts ↔
      ∀ lowered, project.UsesLowered lowered ↔ other.UsesLowered lowered := by
  refine ⟨?_, Text.nodup_ordered _, fun _ => mem_effectScripts, fun _ => effectScripts_eq_iff⟩
  exact (Text.pairwise_ordered _).imp Text.bytes_lt_iff.mpr

end GameBundle.Project
