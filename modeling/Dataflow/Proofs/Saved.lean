import Dataflow.Proofs.Config.Codec
import Dataflow.Proofs.Json.Record
import Dataflow.Validation

/-! What was loaded can be saved and loaded again.

The codecs of the saved types are faithful at every depth that leaves room for what they
nest themselves: a node has its position and its configuration below it, a workflow lists
of nodes, and so on. The configuration takes what is left. A member with a default needs
room for the default, which may be written where nothing stood. -/
namespace Dataflow

open Json (Codec Field Fields Value)

section
variable (depth : Nat)

theorem yields_nil {α : Type} (c : Codec α) : c.list.Yields (depth + 1) [] :=
  ⟨"[]".toList, [], rfl⟩

/-! ### Workflows -/

theorem Position.faithful_codec : Position.codec.Faithful (depth + 1) := by
  refine (Codec.faithful_record ?_).imap fun _ => rfl
  exact ⟨Field.faithful_required _ Codec.faithful_number, by decide,
    Field.faithful_required _ Codec.faithful_number, by decide, trivial⟩

theorem Position.yields_origin : Position.codec.Yields (depth + 1) .origin :=
  ⟨"[0,0]".toList, [], rfl⟩

theorem Config.faithful_codec : Config.codec.Faithful (depth + 1) :=
  (ConfigValue.faithful_codec depth).entries

theorem Config.yields_empty : Config.codec.Yields (depth + 1) [] :=
  ⟨"{}".toList, [], rfl⟩

theorem Node.faithful_codec : Node.codec.Faithful (depth + 2) := by
  refine (Codec.faithful_record ?_).imap fun _ => rfl
  exact ⟨Field.faithful_required _ Codec.faithful_string, by decide,
    Field.faithful_required _ Codec.faithful_string, by decide,
    Field.faithful_withDefault _ (Position.faithful_codec depth) (Position.yields_origin depth),
    by decide,
    Field.faithful_withDefault _ (Config.faithful_codec depth) (Config.yields_empty depth),
    by decide, trivial⟩

theorem Edge.faithful_codec : Edge.codec.Faithful (depth + 1) := by
  refine (Codec.faithful_record ?_).imap fun _ => rfl
  exact ⟨Field.faithful_required _ Codec.faithful_string, by decide,
    Field.faithful_required _ Codec.faithful_string, by decide,
    Field.faithful_required _ Codec.faithful_string, by decide,
    Field.faithful_optional _ Codec.faithful_string Codec.refusesNull_string, by decide,
    Field.faithful_optional _ Codec.faithful_string Codec.refusesNull_string, by decide, trivial⟩

theorem Workflow.faithful_codec : Workflow.codec.Faithful (depth + 4) := by
  refine (Codec.faithful_record ?_).imap fun _ => rfl
  exact ⟨Field.faithful_withDefault _ (Node.faithful_codec depth).list (yields_nil _ _), by decide,
    Field.faithful_withDefault _ (Edge.faithful_codec _).list (yields_nil _ _), by decide, trivial⟩

/-! ### Node definitions -/

theorem PortDefinition.faithful_codec : PortDefinition.codec.Faithful (depth + 1) := by
  refine (Codec.faithful_record ?_).imap fun _ => rfl
  exact ⟨Field.faithful_required _ Codec.faithful_string, by decide,
    Field.faithful_required _ Codec.faithful_string, by decide,
    Field.faithful_withDefault _ Codec.faithful_bool ⟨"false".toList, [], rfl⟩, by decide, trivial⟩

theorem Ports.faithful_codec : Ports.codec.Faithful (depth + 3) := by
  refine (Codec.faithful_record ?_).imap fun _ => rfl
  exact ⟨Field.faithful_withDefault _ (PortDefinition.faithful_codec depth).list (yields_nil _ _),
    by decide,
    Field.faithful_withDefault _ (PortDefinition.faithful_codec depth).list (yields_nil _ _),
    by decide, trivial⟩

theorem Ports.yields_empty : Ports.codec.Yields (depth + 1) .empty :=
  ⟨"{}".toList, [], rfl⟩

theorem ConfigField.faithful_codec : ConfigField.codec.Faithful (depth + 1) := by
  refine (Codec.faithful_record ?_).imap fun _ => rfl
  exact ⟨Field.faithful_required _ Codec.faithful_string, by decide,
    Field.faithful_withDefault _ Codec.faithful_bool ⟨"false".toList, [], rfl⟩, by decide,
    Field.faithful_optional _ (ConfigValue.faithful_codec depth)
      (ConfigValue.refusesNull_codec depth), by decide, trivial⟩

theorem NodeDefinition.faithful_codec : NodeDefinition.codec.Faithful (depth + 4) := by
  refine (Codec.faithful_record ?_).imap fun _ => rfl
  exact ⟨Field.faithful_required _ Codec.faithful_string, by decide,
    Field.faithful_withDefault _ (Ports.faithful_codec depth) (Ports.yields_empty _), by decide,
    Field.faithful_withDefault _ (ConfigField.faithful_codec _).list (yields_nil _ _), by decide,
    trivial⟩

/-! ### Issues and results -/

theorem IssueKind.faithful_codec : IssueKind.codec.Faithful depth :=
  Codec.faithful_choice (by decide)

theorem Severity.faithful_codec : Severity.codec.Faithful depth :=
  Codec.faithful_choice (by decide)

theorem Issue.faithful_codec : Issue.codec.Faithful (depth + 2) := by
  refine (Codec.faithful_record ?_).imap fun _ => rfl
  exact ⟨Field.faithful_required _ (IssueKind.faithful_codec _), by decide,
    Field.faithful_required _ Codec.faithful_string, by decide,
    Field.faithful_required _ (Severity.faithful_codec _), by decide,
    Field.faithful_optional _ Codec.faithful_string Codec.refusesNull_string, by decide,
    Field.faithful_optional _ Codec.faithful_string Codec.refusesNull_string, by decide,
    Field.faithful_required _ Codec.faithful_string, by decide,
    Field.faithful_required _ Codec.faithful_bool, by decide,
    Field.faithful_optional _ Codec.faithful_string.list Codec.refusesNull_list, by decide,
    trivial⟩

theorem Result.faithful_codec : Result.codec.Faithful (depth + 4) := by
  refine (Codec.faithful_record ?_).imap fun _ => rfl
  exact ⟨Field.faithful_required _ Codec.faithful_bool, by decide,
    Field.faithful_required _ (Issue.faithful_codec _).list, by decide,
    Field.faithful_required _ (Node.faithful_codec _).list, by decide,
    Field.faithful_required _ (Edge.faithful_codec _).list, by decide,
    Field.faithful_required _ (Node.faithful_codec _).list, by decide, trivial⟩

end

/-! ### Saving and loading -/

/-- The finite numbers of a value are read back from what is written of them. -/
def Json.Value.NumbersReload (v : Value) : Prop :=
  ∀ x ∈ v.numbers, x.isFinite = true → Codec.number.decode (Value.number x).text = .ok x

/-- What was loaded is loaded again, exactly, from what it is saved as. -/
theorem reload_of_load :
    (∀ text w, Workflow.codec.decode text = .ok w → (Workflow.codec.encode w).NumbersReload →
      Workflow.codec.decode (Workflow.codec.encode w).text = .ok w) ∧
    (∀ text ds, NodeDefinition.codec.list.decode text = .ok ds →
      (NodeDefinition.codec.list.encode ds).NumbersReload →
        NodeDefinition.codec.list.decode (NodeDefinition.codec.list.encode ds).text = .ok ds) ∧
    (∀ text i, Issue.codec.decode text = .ok i → (Issue.codec.encode i).NumbersReload →
      Issue.codec.decode (Issue.codec.encode i).text = .ok i) ∧
    (∀ text r, Result.codec.decode text = .ok r → (Result.codec.encode r).NumbersReload →
      Result.codec.decode (Result.codec.encode r).text = .ok r) :=
  ⟨fun _ _ => (Workflow.faithful_codec 123).decode,
    fun _ _ => (NodeDefinition.faithful_codec 122).list.decode,
    fun _ _ => (Issue.faithful_codec 125).decode,
    fun _ _ => (Result.faithful_codec 123).decode⟩

theorem Json.Codec.ok_of_toOption {ε α : Type} {e : Except ε α} {a : α}
    (h : e.toOption = some a) : e = .ok a := by
  cases e <;> cases h
  rfl

/-- A text that loads, what that is saved as and that its numbers reload are computed. -/
theorem Json.Codec.exists_reload {α : Type} {c : Codec α} {text saved : String}
    (reload : ∀ a, c.decode text = .ok a → (c.encode a).NumbersReload →
      c.decode (c.encode a).text = .ok a)
    (h : (c.decode text).toOption.any (fun a => decide ((c.encode a).text = saved ∧
      ∀ x ∈ (c.encode a).numbers,
        (Codec.number.decode (Value.number x).text).toOption = some x)) = true) :
    ∃ a, c.decode text = .ok a ∧ (c.encode a).text = saved ∧ (c.encode a).NumbersReload ∧
      c.decode (c.encode a).text = .ok a := by
  cases loaded : c.decode text with
  | error e =>
    rw [loaded] at h
    cases h
  | ok a =>
    rw [loaded] at h
    obtain ⟨same, numbers⟩ := of_decide_eq_true h
    have numbers : (c.encode a).NumbersReload := fun x mem _ => ok_of_toOption (numbers x mem)
    exact ⟨a, rfl, same, numbers, reload a loaded numbers⟩

/-- A node as a list with a repeated key, a default that is a list, an issue with a path,
and a result with a member that nobody asked for. -/
theorem reload_of_load_mixed :
    (∃ w, Workflow.codec.decode
          "\x7b\"nodes\":[[\"é\",\"t\",[1,-0],\x7b\"n\":[25e-1],\"m\":0,\"m\":true\x7d]]\x7d" =
        .ok w ∧
      (Workflow.codec.encode w).text =
        "\x7b\"nodes\":[\x7b\"id\":\"é\",\"type\":\"t\",\"position\":\x7b\"x\":1.0," ++
          "\"y\":-0.0\x7d,\"config\":\x7b\"m\":true,\"n\":[2.5]\x7d\x7d],\"edges\":[]\x7d" ∧
      (Workflow.codec.encode w).NumbersReload ∧
      Workflow.codec.decode (Workflow.codec.encode w).text = .ok w) ∧
    (∃ ds, NodeDefinition.codec.list.decode
          "[[\"t\",\x7b\x7d,[\x7b\"key\":\"k\",\"default\":[0.1,\x7b\x7d]\x7d]]]" = .ok ds ∧
      (NodeDefinition.codec.list.encode ds).text =
        "[\x7b\"type\":\"t\",\"ports\":\x7b\"inputs\":[],\"outputs\":[]\x7d,\"configSchema\":" ++
          "[\x7b\"key\":\"k\",\"required\":false,\"default\":[0.1,\x7b\x7d]\x7d]\x7d]" ∧
      (NodeDefinition.codec.list.encode ds).NumbersReload ∧
      NodeDefinition.codec.list.decode (NodeDefinition.codec.list.encode ds).text = .ok ds) ∧
    (∃ i, Issue.codec.decode
          "[\"cycle\",\"\",\x7b\"error\":null\x7d,\"\",null,\"\\n\",false,[\"a\",\"a\"]]" = .ok i ∧
      (Issue.codec.encode i).text =
        "\x7b\"kind\":\"cycle\",\"code\":\"\",\"severity\":\"error\",\"nodeId\":\"\"," ++
          "\"message\":\"\\n\",\"autoFixable\":false,\"path\":[\"a\",\"a\"]\x7d" ∧
      (Issue.codec.encode i).NumbersReload ∧
      Issue.codec.decode (Issue.codec.encode i).text = .ok i) ∧
    (∃ r, Result.codec.decode
          ("\x7b\"valid\":false,\"issues\":[],\"fixedNodes\":[],\"insertedNodes\":[],\"x\":[]," ++
            "\"fixedEdges\":[]\x7d") = .ok r ∧
      (Result.codec.encode r).text =
        "\x7b\"valid\":false,\"issues\":[],\"fixedNodes\":[],\"fixedEdges\":[]," ++
          "\"insertedNodes\":[]\x7d" ∧
      (Result.codec.encode r).NumbersReload ∧
      Result.codec.decode (Result.codec.encode r).text = .ok r) := by
  obtain ⟨workflows, definitions, issues, results⟩ := reload_of_load
  exact ⟨Json.Codec.exists_reload (workflows _) (by decide +kernel),
    Json.Codec.exists_reload (definitions _) (by decide +kernel),
    Json.Codec.exists_reload (issues _) (by decide +kernel),
    Json.Codec.exists_reload (results _) (by decide +kernel)⟩

end Dataflow
