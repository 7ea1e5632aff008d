import Mathlib.Data.List.Forall2
import Relink.Commands
import Relink.Proofs.Shell.CommandWords
import Relink.Proofs.Shell.Octets

/-! The commands of the host's tools, read back by a shell. Whatever a device, a path or a unit is called, it is one
argument of the one command that was meant. -/

namespace Relink.Commands

open Shell (Chars Command Cursor Reader Redirect Spelling Token Word quote)
open Shell.Chars (joined ofString)

/-- What follows the name of a tool adds arguments to its command and nothing else: every word is one argument,
whatever the shell's condition, nothing is assigned or redirected, and the command ends with the text. -/
def Adds (tail : Chars) (arguments : List String) : Prop :=
  ∃ words, List.Forall₂ Word.Means words (arguments.map ofString) ∧
    ∀ (cursor : Cursor) (fuel line : Nat) (assignments : List (String × Word)) (found : List Word)
      (redirects : List Redirect), cursor.Unaliased → cursor.ahead = none → cursor.rest = tail → found ≠ [] →
      tail.length + 4 ≤ fuel →
      ∃ after, Reader.simple fuel line assignments found redirects cursor =
          .ok (.simple line assignments (found.reverse ++ words) redirects, after) ∧ after.rest = []

/-- A whole text is one simple command with these words and no others. -/
def Runs (command : String) (arguments : List String) : Prop :=
  ∃ line words after,
    Command.readLine (Cursor.start (ofString command)) = .ok (some (.simple line [] words []), after) ∧
      after.rest = [] ∧ List.Forall₂ Word.Means words (arguments.map ofString)

/-- A text that names a tool as one word without any meaning of its own. -/
def IsTool (tool : String) : Prop :=
  (Spelling.bare tool).IsProper ∧ String.ofList (ofString tool) ∉ Token.keywords

instance (tool : String) : Decidable (IsTool tool) :=
  inferInstanceAs (Decidable (_ ∧ _))

/-- A command gives a tool its arguments, whatever the tool's text is, and is one simple command if that is a word. -/
structure Invokes (command tool : String) (arguments : List String) : Prop where
  adds : ∃ tail, ofString command = ofString tool ++ tail ∧ Adds tail arguments
  runs : IsTool tool → Runs command (tool :: arguments)

section Words

variable {tool : String} {spellings : List Spelling}

theorem keyword?_of_isTool (named : IsTool tool) : (Token.word (Spelling.bare tool).word).keyword? = none := by
  have bare : (Spelling.bare tool).word.bare? = some (ofString tool) := by
    simp [Spelling.word, Word.bare, Word.bare?]
  have other : Token.keywords.contains (String.ofList (ofString tool)) = false := by
    simpa using named.2
  rw [Token.keyword?, bare, Option.map_some, Option.filter_some, other]
  rfl

theorem forall₂_means (proper : ∀ spelling ∈ spellings, spelling.IsProper) :
    List.Forall₂ Word.Means (spellings.map Spelling.word) ((spellings.map Spelling.meaning).map ofString) := by
  rw [List.map_map, List.forall₂_map_left_iff, List.forall₂_map_right_iff, List.forall₂_same]
  exact fun spelling member => Spelling.word_means (proper spelling member)

/-- A command that is written word by word after the text of its tool gives it these words. -/
theorem invokes_of_written {command : String} {arguments : List String}
    (written : tool ++ String.join (spellings.map fun spelling => " " ++ spelling.written) = command)
    (meant : spellings.map Spelling.meaning = arguments) (proper : ∀ spelling ∈ spellings, spelling.IsProper) :
    Invokes command tool arguments := by
  subst written meant
  have means := forall₂_means proper
  have parts : ofString (tool ++ String.join (spellings.map fun spelling => " " ++ spelling.written)) =
      ofString tool ++ Spelling.tailOf spellings := by
    rw [Shell.Chars.ofString_append, Spelling.tailOf_eq]
  constructor
  · refine ⟨_, parts, _, means, ?_⟩
    intro cursor fuel line assignments found redirects unaliased idle here nonempty enough
    obtain ⟨after, done, ended, -⟩ := Reader.simple_spellings proper unaliased idle here nonempty (here ▸ enough)
    exact ⟨after, done, ended⟩
  · intro named
    obtain ⟨line, after, done, ended⟩ := Reader.readLine_spellings named.1 (keyword?_of_isTool named) proper
    refine ⟨line, _, after, ?_, ended, .cons (Spelling.word_means named.1) means⟩
    rw [parts]
    exact done

end Words

section Tools

open Shell.Spelling (bare quoted)

theorem joined_service (backend : Backend) : joined backend.service = backend.service := by
  cases backend <;> decide

def controlWords (backend : Backend) (action : Action) (units : List String) (sync : Bool) : List Spelling :=
  bare action.verb :: ((if sync then [] else [bare "--no-block"]) ++ (backend.service :: units).map quoted)

theorem isProper_controlWords (backend : Backend) (action : Action) (units : List String) (sync : Bool) :
    ∀ spelling ∈ controlWords backend action units sync, spelling.IsProper := by
  have verb : (bare action.verb).IsProper := by
    cases action <;> decide
  have noBlock : (bare "--no-block").IsProper := by decide
  have quotes : ∀ spelling ∈ (backend.service :: units).map quoted, spelling.IsProper :=
    List.forall_mem_map.mpr fun _ _ => trivial
  rw [controlWords, List.forall_mem_cons, List.forall_mem_append]
  refine ⟨verb, ?_, quotes⟩
  cases sync with
  | false => exact List.forall_mem_singleton.mpr noBlock
  | true => exact List.forall_mem_nil _

theorem invokes_control (systemctl : String) (backend : Backend) (action : Action) (units : List String) (sync : Bool) :
    Invokes (control systemctl backend action units sync) systemctl
      (action.verb :: ((if sync then [] else ["--no-block"]) ++ backend.service :: units.map joined)) := by
  refine invokes_of_written ?_ ?_ (isProper_controlWords backend action units sync)
  · cases sync <;>
      simp [controlWords, control, String.join_cons, Spelling.written, ← String.toList_inj, Function.comp_def]
  · cases sync <;> simp [controlWords, Spelling.meaning, joined_service]

theorem invokes_disconnect (nmcli device : String) :
    Invokes (disconnect nmcli device) nmcli ["device", "disconnect", joined device] := by
  have proper : ∀ spelling ∈ [bare "device", bare "disconnect", quoted device], spelling.IsProper := by
    simp only [List.forall_mem_cons]
    exact ⟨by decide, by decide, trivial, List.forall_mem_nil _⟩
  refine invokes_of_written ?_ rfl proper
  simp [disconnect, String.join_cons, Spelling.written, ← String.toList_inj]

theorem invokes_applyLinkRules (udevadm devices device : String) :
    Invokes (applyLinkRules udevadm devices device) udevadm
      ["test-builtin", "net_setup_link", joined (Files.Path.join devices device)] := by
  have proper : ∀ spelling ∈ [bare "test-builtin", bare "net_setup_link", quoted (Files.Path.join devices device)],
      spelling.IsProper := by
    simp only [List.forall_mem_cons]
    exact ⟨by decide, by decide, trivial, List.forall_mem_nil _⟩
  refine invokes_of_written ?_ rfl proper
  simp [applyLinkRules, String.join_cons, Spelling.written, ← String.toList_inj]

theorem invokes_rename (ip device newName : String) :
    Invokes (rename ip device newName) ip ["link", "set", "dev", joined device, "name", joined newName] := by
  have proper : ∀ spelling ∈ [bare "link", bare "set", bare "dev", quoted device, bare "name", quoted newName],
      spelling.IsProper := by
    simp only [List.forall_mem_cons]
    exact ⟨by decide, by decide, by decide, trivial, by decide, trivial, List.forall_mem_nil _⟩
  refine invokes_of_written ?_ rfl proper
  simp [rename, String.join_cons, Spelling.written, ← String.toList_inj]

theorem runs_generate (generator : String) : Runs (generate generator) [joined generator] := by
  have proper : (quoted generator).IsProper := trivial
  obtain ⟨line, after, done, ended⟩ := Reader.readLine_spellings proper rfl (List.forall_mem_nil _)
  rw [Spelling.tailOf, List.flatMap_nil, List.append_nil] at done
  exact ⟨line, _, after, done, ended, .cons (Spelling.word_means proper) .nil⟩

end Tools

/-- No text can break out of a command: read back by the shell, each command is one simple command, with the fixed words
and one word for each text, in the order that is meant. The word of a text is the text without its ends of lines. -/
theorem commands_read_back :
    (∀ systemctl backend action units sync,
      Invokes (control systemctl backend action units sync) systemctl
        (action.verb :: ((if sync then [] else ["--no-block"]) ++ backend.service :: units.map joined))) ∧
    (∀ nmcli device, Invokes (disconnect nmcli device) nmcli ["device", "disconnect", joined device]) ∧
    (∀ udevadm devices device, Invokes (applyLinkRules udevadm devices device) udevadm
      ["test-builtin", "net_setup_link", joined (Files.Path.join devices device)]) ∧
    (∀ ip device newName, Invokes (rename ip device newName) ip
      ["link", "set", "dev", joined device, "name", joined newName]) ∧
    (∀ generator, Runs (generate generator) [joined generator]) ∧
    ∀ text, '\n' ∉ text.toList → joined text = text :=
  ⟨invokes_control, invokes_disconnect, invokes_applyLinkRules, invokes_rename, runs_generate,
    fun _ => Shell.Chars.joined_eq_self⟩

theorem commands_read_back_hostile :
    IsTool "/sbin/ip" ∧
      Runs (rename "/sbin/ip" "eth1\"; reboot #" "x$(reboot)")
        ["/sbin/ip", "link", "set", "dev", "eth1\"; reboot #", "name", "x$(reboot)"] ∧
      Runs (generate "a\nb") ["ab"] := by
  obtain ⟨-, -, -, renames, generates, single⟩ := commands_read_back
  have tool : IsTool "/sbin/ip" := by decide
  have named := (renames "/sbin/ip" "eth1\"; reboot #" "x$(reboot)").runs tool
  rw [single _ (by decide), single _ (by decide)] at named
  exact ⟨tool, named, generates "a\nb"⟩

end Relink.Commands
