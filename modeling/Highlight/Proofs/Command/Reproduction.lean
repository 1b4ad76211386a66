import Highlight.Command.Run
import Highlight.Files.Tree
import Highlight.Proofs.Registry.Standard
import Highlight.Proofs.Terminal.Parts
import Highlight.Proofs.Token.Locality

/-!
# A text comes out as it went in

Without color, or with a theme that styles nothing, painting writes the text that was divided. So a
run of the program whose output is no terminal writes the file or the standard input as it is, or
gives up and writes nothing. `Command.Finds` says which of the two happens.
-/

namespace Highlight

namespace Grammar

open Node (styledPartsOf)

theorem paint_uncolored (g : Grammar) (theme : Theme) (text : String) :
    Paint.nodes theme false (g.tokenize text) = text := by
  have hjoin := g.join_styledParts theme text
  rw [Paint.nodes]
  exact hjoin

theorem paint_unstyled (g : Grammar) {theme : Theme}
    (htheme : ∀ name s, theme.get? name = some s → s = .plain) (text : String) :
    Paint.nodes theme true (g.tokenize text) = text := by
  have hplain := Node.styledPartsOf_unstyled htheme .plain (g.tokenize text)
  rw [Paint.nodes]
  refine (congrArg String.join (List.map_congr_left ?_)).trans (g.join_styledParts theme text)
  rintro ⟨s, t⟩ hp
  obtain rfl : s = .plain := hplain (s, t) hp
  rfl

end Grammar

namespace Command

/-- The arguments ask for a painted text: they name neither another view nor the list of grammars, the
version or the help. Arguments that are not understood count as well. -/
def AsksForText (args : List String) : Prop :=
  match read args with
  | .ok (.run o) => o.tree = false ∧ o.ranges = false ∧ o.list = false
  | .ok .version | .ok .help => False
  | .error _ => True

/-- All that a run needs is there: the configuration and the grammars are in order, one of them is
found for the text, and the text can be read. -/
def Finds (host : Host Id) (o : Options) (text : String) : Prop :=
  ∃ c r g, configuration host o = .ok c ∧ grammars host c = .ok r ∧ chooseGrammar r c o = .ok g ∧
    sourceText host o = .ok text

theorem Finds.sourceText_eq {host : Host Id} {o : Options} {text : String} (h : Finds host o text) :
    sourceText host o = .ok text := by
  obtain ⟨-, -, -, -, -, -, htext⟩ := h
  exact htext

/-- Two steps succeed if the first one does and then the second one with its result. -/
theorem run_bind_eq_ok {α β : Type} {x : Except Error α} {f : α → ExceptT Error Id β} {b : β} :
    (ExceptT.mk (m := Id) x >>= f).run = .ok b ↔ ∃ a, x = .ok a ∧ (f a).run = .ok b := by
  cases x with
  | error e =>
    constructor
    · intro h
      cases h
    · rintro ⟨a, ha, -⟩
      cases ha
  | ok a =>
    constructor
    · intro h
      exact ⟨a, rfl, h⟩
    · rintro ⟨a', ha, h⟩
      cases ha
      exact h

variable {host : Host Id} {o : Options} {out : String} {args : List String}

/-- Output without the list of grammars is a view of a text, where all that it takes is found. -/
theorem output_eq_ok (hlist : o.list = false) :
    (output host o).run = .ok out ↔
      ∃ c r g text, configuration host o = .ok c ∧ grammars host c = .ok r ∧
        chooseGrammar r c o = .ok g ∧ sourceText host o = .ok text ∧
        view o c host.terminal (g.tokenize text) = out := by
  rw [output, run_bind_eq_ok]
  constructor
  · rintro ⟨c, hc, h⟩
    rw [run_bind_eq_ok] at h
    obtain ⟨r, hr, h⟩ := h
    simp only [hlist, Bool.false_eq_true, if_false] at h
    rw [run_bind_eq_ok] at h
    obtain ⟨g, hg, h⟩ := h
    rw [run_bind_eq_ok] at h
    obtain ⟨text, htext, h⟩ := h
    exact ⟨c, r, g, text, hc, hr, hg, htext, Except.ok.inj h⟩
  · rintro ⟨c, r, g, text, hc, hr, hg, htext, rfl⟩
    refine ⟨c, hc, ?_⟩
    rw [run_bind_eq_ok]
    refine ⟨r, hr, ?_⟩
    simp only [hlist, Bool.false_eq_true, if_false]
    rw [run_bind_eq_ok]
    refine ⟨g, hg, ?_⟩
    rw [run_bind_eq_ok]
    exact ⟨text, htext, rfl⟩

theorem run_of_read (hread : read args = .ok (.run o)) :
    run host args =
      match (output host o).run with
      | .ok text => Outcome.success text
      | .error e => Outcome.failure e := by
  rw [run, hread]
  rfl

/-- Where the output is no terminal, a run that asks for a text writes it as it was found, or ends with
an error and without output if something is not found. -/
theorem run_of_asksForText (hterminal : host.terminal = false) (hasks : AsksForText args) :
    (∃ o text, read args = .ok (.run o) ∧ Finds host o text ∧ run host args = ⟨0, text, ""⟩) ∨
      ((∀ o text, read args = .ok (.run o) → ¬ Finds host o text) ∧
        (run host args).code ≠ 0 ∧ (run host args).output = "") := by
  rw [AsksForText] at hasks
  cases hread : read args with
  | error e =>
    have hrun : run host args = .misused e := by
      rw [run, hread]
      rfl
    rw [hrun]
    exact .inr ⟨by simp, by simp [Outcome.misused], rfl⟩
  | ok request =>
    rw [hread] at hasks
    cases request with
    | version | help => exact absurd hasks id
    | run o =>
      obtain ⟨htree, hranges, hlist⟩ := hasks
      -- no other view is asked for, and without a terminal there is no color whatever is configured
      have hview : ∀ c nodes, view o c host.terminal nodes = Paint.nodes c.theme false nodes := by
        intro c nodes
        rw [view, htree, hranges, hterminal, Bool.and_false]
        rfl
      rw [run_of_read hread]
      cases hout : (output host o).run with
      | ok out =>
        obtain ⟨c, r, g, text, hc, hr, hg, htext, hshown⟩ := (output_eq_ok hlist).mp hout
        rw [hview, g.paint_uncolored] at hshown
        exact .inl ⟨o, text, rfl, ⟨c, r, g, hc, hr, hg, htext⟩, hshown ▸ rfl⟩
      | error e =>
        refine .inr ⟨?_, by simp [Outcome.failure], rfl⟩
        intro o' text ho hfinds
        obtain rfl : o = o' := by simpa using ho
        obtain ⟨c, r, g, hc, hr, hg, htext⟩ := hfinds
        have hok := (output_eq_ok hlist).mpr ⟨c, r, g, text, hc, hr, hg, htext, rfl⟩
        rw [hout] at hok
        cases hok

end Command

theorem decodeText_eq_ok {bytes : ByteArray} {text : String} :
    decodeText bytes = .ok text ↔ bytes = text.toByteArray := by
  rw [decodeText, String.fromUTF8?]
  by_cases hvalid : bytes.IsValidUTF8
  · rw [dif_pos hvalid]
    constructor
    · intro h
      cases h
      rfl
    · rintro rfl
      rfl
  · rw [dif_neg hvalid]
    constructor
    · intro h
      cases h
    · rintro rfl
      exact absurd text.isValidUTF8 hvalid

namespace Surroundings

def hostWithHome (s : Surroundings) (home : Option String) : Host Id := { s.host with home := home }

/-- The bytes that a run is to show: those of the file, or those on the standard input. -/
def Source (s : Surroundings) (o : Command.Options) (bytes : ByteArray) : Prop :=
  match o.file with
  | some path => s.find path = .ok (.file bytes)
  | none => s.input = bytes

end Surroundings

namespace Command

theorem sourceText_eq (s : Surroundings) (home : Option String) (o : Options) :
    sourceText (s.hostWithHome home) o =
      ((o.file.map s.readText).getD (decodeText s.input)).mapError Error.file := by
  have hread : (s.hostWithHome home).readText = s.readText := rfl
  have hinput : (s.hostWithHome home).readInput = decodeText s.input := rfl
  rw [sourceText, hread, hinput]
  cases o.file with
  | none => cases decodeText s.input <;> rfl
  | some path =>
    dsimp only [Option.map_some, Option.getD_some]
    cases s.readText path <;> rfl

theorem readText_eq_ok {s : Surroundings} {path text : String} :
    s.readText path = .ok text ↔ s.find path = .ok (.file text.toByteArray) := by
  rw [Surroundings.readText]
  cases hfind : s.find path with
  | error e => simp
  | ok tree =>
    cases tree with
    | file bytes => simp [decodeText_eq_ok]
    | directory entries => simp

/-- The text to show is the one that the bytes to show spell. -/
theorem sourceText_eq_ok {s : Surroundings} {home : Option String} {o : Options} {text : String} :
    sourceText (s.hostWithHome home) o = .ok text ↔ s.Source o text.toByteArray := by
  have hopen : ∀ x : Except FileError String, x.mapError Error.file = .ok text ↔ x = .ok text := by
    intro x
    cases x with
    | error e => constructor <;> intro h <;> cases h
    | ok a =>
      constructor
      · intro h
        cases h
        rfl
      · intro h
        cases h
        rfl
  rw [sourceText_eq, hopen, Surroundings.Source]
  cases o.file with
  | none => exact decodeText_eq_ok
  | some path => exact readText_eq_ok

/-- Painting without color, or with a theme that styles nothing, gives back the text. So a run that
asks for a text, with the output to no terminal, writes the bytes it is to show if it finds all that it
needs; otherwise it ends with an error and writes nothing. -/
theorem run_reproduces :
    (∀ (g : Grammar) (theme : Theme) (text : String),
      Paint.nodes theme false (g.tokenize text) = text ∧
      ((∀ name s, theme.get? name = some s → s = .plain) →
        Paint.nodes theme true (g.tokenize text) = text)) ∧
    ∀ (s : Surroundings) (home : Option String) (args : List String), AsksForText args →
      (∃ o text, read args = .ok (.run o) ∧ Finds (s.hostWithHome home) o text ∧
        s.Source o text.toByteArray ∧ run (s.hostWithHome home) args = ⟨0, text, ""⟩) ∨
      ((∀ o text, read args = .ok (.run o) → ¬ Finds (s.hostWithHome home) o text) ∧
        (run (s.hostWithHome home) args).code ≠ 0 ∧
        (run (s.hostWithHome home) args).output = "") := by
  constructor
  · intro g theme text
    exact ⟨g.paint_uncolored theme text, fun htheme => g.paint_unstyled htheme text⟩
  · intro s home args hasks
    have hterminal : (s.hostWithHome home).terminal = false := rfl
    obtain ⟨o, text, hread, hfinds, hrun⟩ | hmisses := run_of_asksForText hterminal hasks
    · exact .inl ⟨o, text, hread, hfinds, sourceText_eq_ok.mp hfinds.sourceText_eq, hrun⟩
    · exact .inr hmisses

/-- Bytes on the standard input, and no files. -/
def piped (bytes : ByteArray) : Host Id := Surroundings.hostWithHome ⟨.directory [], "/", bytes⟩ none

/-- The grammars that are built in need no file. -/
theorem finds_piped (text : String) :
    Finds (piped text.toByteArray) { grammar := some "json" } text := by
  obtain ⟨r, yaml, toml, hr, -, hknown, -⟩ := Registry.exists_standard
  have hget : r.get? "json" = some Json.grammar := by
    have hlower : Text.lowercase "json" = "json" := by decide +kernel
    rw [Registry.get?, hlower, hknown]
    rfl
  have hconfiguration : configuration (piped text.toByteArray) { grammar := some "json" } = .ok {} := rfl
  have hgrammars : grammars (piped text.toByteArray) {} = .ok r := by
    rw [grammars, hr]
    rfl
  have hgrammar : chooseGrammar r {} { grammar := some "json" } = .ok Json.grammar := by
    simp only [chooseGrammar, namedGrammar, hget]
  exact ⟨{}, r, Json.grammar, hconfiguration, hgrammars, hgrammar, sourceText_eq_ok.mpr rfl⟩

/-- Two bytes that are written as they are, and a byte that is no text. -/
theorem run_reproduces_piped :
    (∀ name s, Theme.get? ⟨[("block", .plain)]⟩ name = some s → s = .plain) ∧
    Paint.nodes ⟨[("block", .plain)]⟩ true (Grammar.Blocks.grammar.tokenize "[x x]") = "[x x]" ∧
    AsksForText ["-g", "json"] ∧
    run (piped "[]".toByteArray) ["-g", "json"] = ⟨0, "[]", ""⟩ ∧
    (run (piped ⟨#[0xff]⟩) ["-g", "json"]).code ≠ 0 ∧
    (run (piped ⟨#[0xff]⟩) ["-g", "json"]).output = "" := by
  have htheme : ∀ name s, Theme.get? ⟨[("block", .plain)]⟩ name = some s → s = .plain := by
    intro name s h
    obtain ⟨front, back, hentries, -⟩ := List.lookup_eq_some_iff.mp h
    have hmem : (name, s) ∈ front ++ (name, s) :: back := by simp
    rw [← hentries, List.mem_singleton] at hmem
    exact (Prod.mk.inj hmem).2
  have hread : read ["-g", "json"] = .ok (.run { grammar := some "json" }) := rfl
  have hasks : AsksForText ["-g", "json"] := by
    rw [AsksForText, hread]
    exact ⟨rfl, rfl, rfl⟩
  obtain ⟨hpaint, hrun⟩ := run_reproduces
  refine ⟨htheme, (hpaint _ _ _).2 htheme, hasks, ?_, ?_⟩
  · rcases hrun ⟨.directory [], "/", "[]".toByteArray⟩ none _ hasks with
      ⟨o, text, ho, -, hsource, hok⟩ | ⟨hmisses, -⟩
    · obtain rfl : o = { grammar := some "json" } := by simpa [hread] using ho.symm
      obtain rfl : "[]" = text := String.toByteArray_inj.mp hsource
      exact hok
    · exact absurd (finds_piped "[]") (hmisses _ _ hread)
  · rcases hrun ⟨.directory [], "/", ⟨#[0xff]⟩⟩ none _ hasks with
      ⟨o, text, ho, -, hsource, -⟩ | ⟨-, hfailed⟩
    · obtain rfl : o = { grammar := some "json" } := by simpa [hread] using ho.symm
      have htext : (⟨#[0xff]⟩ : ByteArray) = text.toByteArray := hsource
      have hbad : decodeText ⟨#[0xff]⟩ = .error .notText := rfl
      rw [decodeText_eq_ok.mpr htext] at hbad
      cases hbad
    · exact hfailed

end Command

end Highlight
