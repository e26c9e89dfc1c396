import AudienceScope.Ident

/-!
Identifiers stand for declared names without loss. An escaped text holds no separator, so where a
segment or a name ends can be read off an identifier, and two names with one identifier are the
same name. A path holds no colon, so the part of an endpoint's identifier before its first colon is
the identifier of its service, and the identifier of a service is that of nothing else. Main
statements: `qualifiedText_inj`, for each kind of declaration when two identifiers are equal, and
`identifiers_collision_free`.
-/

set_option autoImplicit false

namespace AudienceScope

namespace Ident

/-- What ends a segment of a path, or stands before a simple name. -/
def IsSeparator (c : Char) : Prop := c = '/' ∨ c = ':'

theorem escape_cons (c : Char) (raw : List Char) :
    escape (c :: raw) = escapeChar c ++ escape raw := List.flatMap_cons

theorem escapeChar_append_inj {first second : Char} {rest others : List Char}
    (same : escapeChar first ++ rest = escapeChar second ++ others) :
    first = second ∧ rest = others := by
  unfold escapeChar at same
  split at same <;> split at same <;> grind

theorem escapeChar_append_ne_separator {c separator : Char} (isSeparator : IsSeparator separator)
    (rest others : List Char) : escapeChar c ++ rest ≠ separator :: others := by
  intro same
  unfold escapeChar at same
  rcases isSeparator with slash | colon <;> split at same <;> grind

theorem escape_append_inj {raw other : List Char} {separator otherSeparator : Char}
    {rest others : List Char} (isSeparator : IsSeparator separator)
    (otherIsSeparator : IsSeparator otherSeparator)
    (same : escape raw ++ separator :: rest = escape other ++ otherSeparator :: others) :
    raw = other ∧ separator = otherSeparator ∧ rest = others := by
  induction raw generalizing other with
  | nil =>
      cases other with
      | nil =>
          obtain ⟨sameSeparator, sameRest⟩ := List.cons.inj same
          exact ⟨rfl, sameSeparator, sameRest⟩
      | cons c tail =>
          rw [escape_cons, List.append_assoc] at same
          exact absurd same.symm (escapeChar_append_ne_separator isSeparator _ _)
  | cons head raw ih =>
      rw [escape_cons, List.append_assoc] at same
      cases other with
      | nil => exact absurd same (escapeChar_append_ne_separator otherIsSeparator _ _)
      | cons c tail =>
          rw [escape_cons, List.append_assoc] at same
          obtain ⟨sameHead, sameTail⟩ := escapeChar_append_inj same
          obtain ⟨sameRaw, sameEnd⟩ := ih sameTail
          exact ⟨sameHead ▸ sameRaw ▸ rfl, sameEnd⟩

theorem escape_injective {raw other : List Char} (same : escape raw = escape other) :
    raw = other := by
  have closed : escape raw ++ ':' :: [] = escape other ++ ':' :: [] := by rw [same]
  exact (escape_append_inj (.inr rfl) (.inr rfl) closed).1

/-- A path ends where the first colon stands: every segment ends in a slash, and a colon cannot
begin a segment. -/
theorem pathText_append_inj {path other : DeclarationPath} {rest others : List Char}
    (same : pathText path ++ ':' :: rest = pathText other ++ ':' :: others) :
    path = other ∧ rest = others := by
  induction path generalizing other with
  | nil =>
      cases other with
      | nil => exact ⟨rfl, (List.cons.inj same).2⟩
      | cons segment tail =>
          have clash : escape [] ++ ':' :: rest =
              escape segment.toList ++ '/' :: (pathText tail ++ ':' :: others) := by
            simpa [pathText, escape] using same
          obtain ⟨_, impossible, _⟩ := escape_append_inj (.inr rfl) (.inl rfl) clash
          exact absurd impossible (by decide)
  | cons head path ih =>
      cases other with
      | nil =>
          have clash : escape head.toList ++ '/' :: (pathText path ++ ':' :: rest) =
              escape [] ++ ':' :: others := by
            simpa [pathText, escape] using same
          obtain ⟨_, impossible, _⟩ := escape_append_inj (.inl rfl) (.inr rfl) clash
          exact absurd impossible (by decide)
      | cons segment tail =>
          have split : escape head.toList ++ '/' :: (pathText path ++ ':' :: rest) =
              escape segment.toList ++ '/' :: (pathText tail ++ ':' :: others) := by
            simpa [pathText] using same
          obtain ⟨sameHead, _, sameTail⟩ := escape_append_inj (.inl rfl) (.inl rfl) split
          obtain ⟨samePath, sameRest⟩ := ih sameTail
          exact ⟨by rw [String.toList_inj.mp sameHead, samePath], sameRest⟩

theorem qualifiedText_inj {path other : DeclarationPath} {name otherName : String} :
    qualifiedText path name = qualifiedText other otherName ↔
      path = other ∧ name = otherName := by
  constructor
  · intro same
    obtain ⟨samePath, sameName⟩ := pathText_append_inj same
    exact ⟨samePath, String.toList_inj.mp (escape_injective sameName)⟩
  · intro both
    rw [both.1, both.2]

theorem pathText_inj {path other : DeclarationPath} :
    pathText path = pathText other ↔ path = other := by
  constructor
  · intro same
    have closed : pathText path ++ ':' :: [] = pathText other ++ ':' :: [] := by rw [same]
    exact (pathText_append_inj closed).1
  · intro same
    rw [same]

theorem colon_not_mem_escape (raw : List Char) : ':' ∉ escape raw := by
  intro member
  obtain ⟨c, _, escaped⟩ := List.mem_flatMap.mp member
  unfold escapeChar at escaped
  split at escaped
  · exact absurd escaped (by decide)
  · split at escaped
    · exact absurd escaped (by decide)
    · split at escaped
      · exact absurd escaped (by decide)
      · rename_i notColon
        exact notColon (List.mem_singleton.mp escaped).symm

theorem colon_not_mem_pathText (path : DeclarationPath) : ':' ∉ pathText path := by
  intro member
  obtain ⟨segment, _, inSegment⟩ := List.mem_flatMap.mp member
  rcases List.mem_append.mp inSegment with escaped | slash
  · exact colon_not_mem_escape _ escaped
  · exact absurd slash (by decide)

theorem colon_mem_qualifiedText (path : DeclarationPath) (name : String) :
    ':' ∈ qualifiedText path name :=
  List.mem_append_right _ List.mem_cons_self

theorem takeWhile_qualifiedText (path : DeclarationPath) (name : String) :
    (qualifiedText path name).takeWhile (· ≠ ':') = pathText path := by
  have noColon : ∀ c ∈ pathText path, decide (c ≠ ':') = true := by
    intro c member
    refine decide_eq_true fun colon => ?_
    exact colon_not_mem_pathText path (colon ▸ member)
  rw [qualifiedText, List.takeWhile_append_of_pos noColon, List.takeWhile_cons_of_neg (by decide),
    List.append_nil]

theorem pathText_ne_qualifiedText (path other : DeclarationPath) (name : String) :
    pathText path ≠ qualifiedText other name := by
  intro same
  exact colon_not_mem_pathText path (same ▸ colon_mem_qualifiedText other name)

end Ident

/-! ### Identifiers of declarations -/

namespace QualifiedName

theorem typeId_inj {name other : QualifiedName} : name.typeId = other.typeId ↔ name = other := by
  obtain ⟨path, simpleName⟩ := name
  obtain ⟨otherPath, otherName⟩ := other
  simp [typeId, String.ofList_inj, Ident.qualifiedText_inj]

theorem errorId_inj {name other : QualifiedName} :
    name.errorId = other.errorId ↔ name = other := by
  obtain ⟨path, simpleName⟩ := name
  obtain ⟨otherPath, otherName⟩ := other
  simp [errorId, String.ofList_inj, Ident.qualifiedText_inj]

end QualifiedName

namespace ServiceName

theorem eq_iff_path {service other : ServiceName} :
    service = other ↔ service.path = other.path := by
  obtain ⟨path⟩ := service
  obtain ⟨otherPath⟩ := other
  rw [ServiceName.mk.injEq]

theorem endpointId_inj {service other : ServiceName} {endpoint otherEndpoint : Endpoint} :
    service.endpointId endpoint = other.endpointId otherEndpoint ↔
      service = other ∧ endpoint.name = otherEndpoint.name := by
  obtain ⟨path⟩ := service
  obtain ⟨otherPath⟩ := other
  simp [endpointId, String.ofList_inj, Ident.qualifiedText_inj]

theorem id_inj {service other : ServiceName} : service.id = other.id ↔ service = other := by
  obtain ⟨path⟩ := service
  obtain ⟨otherPath⟩ := other
  simp [id, String.ofList_inj, Ident.pathText_inj]

theorem takeWhile_endpointId (service : ServiceName) (endpoint : Endpoint) :
    (service.endpointId endpoint).text.toList.takeWhile (· ≠ ':') = service.id.text.toList := by
  rw [endpointId, id, String.toList_ofList, String.toList_ofList, Ident.takeWhile_qualifiedText]

end ServiceName

/-- Identifiers of one kind are equal only for equal names, the identifier of an endpoint begins
with that of its service, and no service shares its identifier with anything of another kind. -/
theorem identifiers_collision_free :
    (∀ name other : QualifiedName,
      name.typeId = other.typeId ↔ name.path = other.path ∧ name.name = other.name) ∧
    (∀ name other : QualifiedName,
      name.errorId = other.errorId ↔ name.path = other.path ∧ name.name = other.name) ∧
    (∀ service other : ServiceName, service.id = other.id ↔ service.path = other.path) ∧
    (∀ (service other : ServiceName) (endpoint otherEndpoint : Endpoint),
      service.endpointId endpoint = other.endpointId otherEndpoint ↔
        service.path = other.path ∧ endpoint.name = otherEndpoint.name) ∧
    (∀ (service : ServiceName) (endpoint : Endpoint),
      ':' ∈ (service.endpointId endpoint).text.toList ∧
        (service.endpointId endpoint).text.toList.takeWhile (· ≠ ':') = service.id.text.toList) ∧
    (∀ (service other : ServiceName) (endpoint otherEndpoint : Endpoint),
      service.endpointId endpoint = other.endpointId otherEndpoint → service.id = other.id) ∧
    ∀ service : ServiceName,
      (∀ (other : ServiceName) (endpoint : Endpoint),
        service.id.text ≠ (other.endpointId endpoint).text) ∧
      (∀ name : QualifiedName, service.id.text ≠ name.typeId.text) ∧
      ∀ name : QualifiedName, service.id.text ≠ name.errorId.text := by
  have sameName (name other : QualifiedName) :
      name = other ↔ name.path = other.path ∧ name.name = other.name := by
    obtain ⟨path, simpleName⟩ := name
    obtain ⟨otherPath, otherName⟩ := other
    rw [QualifiedName.mk.injEq]
  have foreign (service : ServiceName) (path : DeclarationPath) (name : String) :
      service.id.text ≠ String.ofList (Ident.qualifiedText path name) := by
    intro same
    exact Ident.pathText_ne_qualifiedText service.path path name (String.ofList_inj.mp same)
  refine ⟨?types, ?errors, ?services, ?endpoints, ?beforeColon, ?ofEndpoint, ?otherKinds⟩
  case types => exact fun name other => QualifiedName.typeId_inj.trans (sameName name other)
  case errors => exact fun name other => QualifiedName.errorId_inj.trans (sameName name other)
  case services => exact fun service other => ServiceName.id_inj.trans ServiceName.eq_iff_path
  case endpoints =>
    intro service other endpoint otherEndpoint
    rw [ServiceName.endpointId_inj, ServiceName.eq_iff_path]
  case beforeColon =>
    intro service endpoint
    refine ⟨?_, service.takeWhile_endpointId endpoint⟩
    rw [ServiceName.endpointId, String.toList_ofList]
    exact Ident.colon_mem_qualifiedText service.path endpoint.name
  case ofEndpoint =>
    intro service other endpoint otherEndpoint same
    exact congrArg ServiceName.id (ServiceName.endpointId_inj.mp same).1
  case otherKinds =>
    intro service
    exact ⟨fun other endpoint => foreign service other.path endpoint.name,
      fun name => foreign service name.path name.name,
      fun name => foreign service name.path name.name⟩

end AudienceScope
