import Highlight.Proofs.Json.Patterns
import Highlight.Proofs.Registry.History

/-!
# The registry to begin with

Every pattern of the grammars that are built in is read and accepted. So there is a registry to begin
with, and what it knows is told by the registrations it is made of.
-/

namespace Highlight

namespace Pattern

/-- A grammar that begins with a light pattern is built if it is with any pattern in that place. -/
theorem exists_bind_build {source name : String} {settings : List Setting}
    {next : Pattern → Except GrammarError Grammar}
    (h : (settings.foldl Draft.set { source := source }).light = true)
    (hnext : ∀ p, ∃ g, next p = .ok g ∧ g.name = name) :
    ∃ g, (build source settings >>= next) = .ok g ∧ g.name = name := by
  obtain ⟨p, hp⟩ := Draft.exists_build h
  rw [build, hp]
  exact hnext p

end Pattern

namespace Registry

/-- The grammar `yaml` is built, whatever its thirteen patterns are compiled to. -/
theorem exists_yaml : ∃ g, Builtin.yaml = .ok g ∧ g.name = "yaml" := by
  rw [Builtin.yaml]
  iterate 13 refine Pattern.exists_bind_build (by decide +kernel) fun _ => ?_
  exact ⟨_, rfl, rfl⟩

theorem exists_toml : ∃ g, Builtin.toml = .ok g ∧ g.name = "toml" := by
  rw [Builtin.toml]
  iterate 9 refine Pattern.exists_bind_build (by decide +kernel) fun _ => ?_
  exact ⟨_, rfl, rfl⟩

/-- There is a registry to begin with. It has been told of three grammars, and knows them by their names
and three further names. -/
theorem exists_standard : ∃ r yaml toml, standard = .ok r ∧
    Origin r [⟨toml, []⟩, ⟨Json.grammar, ["webmanifest", "jsonc"]⟩, ⟨yaml, ["yml"]⟩] ∧
    r.grammars = [("toml", toml), ("json", Json.grammar), ("yaml", yaml)] ∧
    r.aliases = [("jsonc", "json"), ("webmanifest", "json"), ("yml", "yaml")] := by
  obtain ⟨yaml, hyaml, hyamlName⟩ := exists_yaml
  obtain ⟨toml, htoml, htomlName⟩ := exists_toml
  have hr : standard = .ok (((empty.register yaml ["yml"]).register Json.grammar
      ["webmanifest", "jsonc"]).register toml []) := by
    rw [standard, hyaml, Json.builtin_json, htoml]
    rfl
  refine ⟨_, yaml, toml, hr, .standard hr hyaml Json.builtin_json htoml, ?_, ?_⟩
  · simp only [register, hyamlName, htomlName]
    rfl
  · simp only [register, hyamlName, htomlName]
    rfl

end Registry

end Highlight
