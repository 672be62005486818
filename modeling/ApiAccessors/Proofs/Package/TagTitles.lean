import ApiAccessors.Proofs.Naming.SpelledAlike
import ApiAccessors.Proofs.Package.Emission

namespace ApiAccessors
namespace Package

/-!
# Resources of tags and of addresses

A path gets its resource from its address or from a tag.  An address has the name as it is written
there; a tag is first turned into a name with dashes.  The paths belong together if tag and address
have the same words, so the two ways must lead to one title, and with it to one module.
-/

/-- A module has a resource exactly if the resource is given and has the title of the module. -/
theorem Emits.mem_resources_iff {spec : Value} {taken resources : List String}
    {modules : List AccessorModule} (emits : Emits spec taken (group resources) modules)
    {module : AccessorModule} (isModule : module ∈ modules) {resource : String} :
    resource ∈ module.resources ↔
      resource ∈ resources ∧ Naming.pascalCase resource = module.title := by
  rw [emits.resources_eq isModule]
  exact mem_membersOf

/-- The resource that an ASCII tag names has the title of the tag, and it is left as it is when it
is taken as a tag again.  Together with any other resource that is spelled like the tag it is in one
group, and in a package no module has one of the two resources without the other one. -/
theorem tag_shares_title {tag : String} (ascii : Text.IsAscii tag.toList) :
    Naming.pascalCase (Naming.kebabCase tag) = Naming.pascalCase tag ∧
    Naming.kebabCase (Naming.kebabCase tag) = Naming.kebabCase tag ∧
    ∀ named segment resources, Resource.ofTag (some (.text tag)) = .ok named →
      Naming.SpelledAlike segment tag → named ∈ resources → segment ∈ resources →
      (∃ members, (Naming.pascalCase tag, members) ∈ group resources ∧
        named ∈ members ∧ segment ∈ members) ∧
      ∀ spec package, (build spec resources).runLog.1 = .ok package →
        ∀ module ∈ package.modules, named ∈ module.resources ↔ segment ∈ module.resources := by
  have sameTitle : Naming.pascalCase (Naming.kebabCase tag) = Naming.pascalCase tag :=
    (Naming.spelledAlike_kebabCase ascii).pascalCase_eq ascii
  refine ⟨sameTitle, Naming.kebabCase_kebabCase ascii, ?_⟩
  intro named segment resources isNamed alike namedGiven segmentGiven
  cases isNamed
  have segmentTitle : Naming.pascalCase segment = Naming.pascalCase tag := alike.pascalCase_eq ascii
  constructor
  · have isGroup := mem_group_of_mem namedGiven
    rw [sameTitle] at isGroup
    exact ⟨_, isGroup, mem_membersOf.mpr ⟨namedGiven, sameTitle⟩,
      mem_membersOf.mpr ⟨segmentGiven, segmentTitle⟩⟩
  · intro spec package ended module isModule
    rcases Logged.runLog_fst_eq_ok_iff.mp ended with ⟨log, built⟩
    have emits := emits_of_build built
    rw [emits.mem_resources_iff isModule, emits.mem_resources_iff isModule, sameTitle, segmentTitle,
      and_iff_right namedGiven, and_iff_right segmentGiven]

/-- White space, an underscore and a capital end the words of this tag, a dash those of the
resource. -/
theorem tag_shares_title_loginCheck :
    Naming.kebabCase "loginCheck \tv2.0_Beta" = "login-check-v2.0_beta" ∧
    Naming.pascalCase "login-check-v2.0_beta" = Naming.pascalCase "loginCheck \tv2.0_Beta" ∧
    Naming.kebabCase "login-check-v2.0_beta" = "login-check-v2.0_beta" ∧
    ∃ members,
      ("LoginCheckV2.0Beta", members) ∈ group ["login-check-v2.0_beta", "Login-CHECK-v2.0-beta"] ∧
      "login-check-v2.0_beta" ∈ members ∧ "Login-CHECK-v2.0-beta" ∈ members := by
  have dashed : Naming.kebabCase "loginCheck \tv2.0_Beta" = "login-check-v2.0_beta" := by
    decide
  have ascii : Text.IsAscii "loginCheck \tv2.0_Beta".toList := by decide
  have alike : Naming.SpelledAlike "Login-CHECK-v2.0-beta" "loginCheck \tv2.0_Beta" := by
    unfold Naming.SpelledAlike
    decide
  have title : Naming.pascalCase "loginCheck \tv2.0_Beta" = "LoginCheckV2.0Beta" := by
    decide
  rcases tag_shares_title ascii with ⟨same, again, together⟩
  rw [dashed] at same again
  refine ⟨dashed, same, again, ?_⟩
  rw [← title]
  exact (together _ _ _ (congrArg Except.ok dashed) alike List.mem_cons_self
    (List.mem_cons_of_mem _ List.mem_cons_self)).1

end Package
end ApiAccessors
