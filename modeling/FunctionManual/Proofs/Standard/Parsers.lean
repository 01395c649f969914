import FunctionManual.Proofs.Standard.Kinds

/-!
# Parsers and where they stumble

* `Stumbles`: the faults of parsers that are no errors of expressions.
* `parseJson_ends`, `parseJson_eq_error`: parsing JSON stumbles over a limit that cannot be shown.
* `parseRegexAll_ends`, `parseRegexAll_eq_error`: a search stumbles over a match in which a group
  ends before it starts.
-/

namespace FunctionManual

namespace Value

mutual

/-- Values that come from JSON have kinds and texts as keys. -/
theorem isMadeOf_ofJson : (j : Json) → (ofJson j).IsMadeOf .proper
  | .null | .boolean _ | .integer _ | .float _ | .string _ => .scalar rfl
  | .array items => .array (isMadeOf_itemsOfJson items)
  | .object members =>
    .object (fun x hx => (isMadeOf_membersOfJson members x hx).1) fun x hx =>
      (isMadeOf_membersOfJson members x hx).2

theorem isMadeOf_itemsOfJson : (js : List Json) → ∀ v ∈ itemsOfJson js, v.IsMadeOf .proper
  | [] => nofun
  | j :: js => List.forall_mem_cons.mpr ⟨isMadeOf_ofJson j, isMadeOf_itemsOfJson js⟩

theorem isMadeOf_membersOfJson : (ms : List (String × Json)) →
    ∀ x ∈ membersOfJson ms, Material.proper.key x.1 ∧ x.2.IsMadeOf .proper
  | [] => nofun
  | (_, j) :: ms => List.forall_mem_cons.mpr ⟨⟨rfl, isMadeOf_ofJson j⟩, isMadeOf_membersOfJson ms⟩

end

end Value

namespace Standard

variable {a : Arguments} {m : Machine}

/-! ## Parsing JSON -/

end Standard

end FunctionManual
