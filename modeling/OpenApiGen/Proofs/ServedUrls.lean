import OpenApiGen.ModuleRouter
import OpenApiGen.Proofs.PathSegments

/-! # The URLs under which the routes of a mounted module answer -/

namespace OpenApiGen

/-- A route of `/` adds nothing to the path of its mount. -/
def Mount.servedUrl (mount : Mount) (route : String) : String :=
  mount.path ++ if route = "/" then "" else route

/-- The URL that a path template describes: one slash in front, and none behind a bare module. -/
def describedUrl (module path : String) : String :=
  let url := '/' :: Text.dropLeading '/' (routeTemplate path).toList
  if Text.dropLeading '/' path.toList = module.toList ++ ['/'] then String.ofList url.dropLast
  else String.ofList url

/-- Nothing but a slash and closing braces without opening ones behind the module. -/
def EndsInClosingBraces (module path : String) : Prop :=
  ∃ n, Text.dropLeading '/' path.toList
    = module.toList ++ '/' :: List.replicate (n + 1) '}'

theorem MainRouter.mount_path {modules : List String} {module : String} {mount : Mount}
    (h : (module, mount) ∈ modules.zip (MainRouter.ofModules modules).mounts) :
    mount.path = "/" ++ module := by
  simp only [ofModules] at h
  induction modules with
  | nil => simp at h
  | cons m modules ih =>
    simp only [List.map_cons, List.zip_cons_cons, List.mem_cons] at h
    rcases h with h | h
    · obtain ⟨rfl, rfl⟩ := Prod.mk.inj h
      rfl
    · exact ih h

theorem relativeRoute_of_prefix {module route : String} {rest : List Char}
    (h : Text.dropLeading '/' route.toList = (routeTemplate module).toList ++ rest) :
    (rest = [] → Naming.relativeRoute module route = "/") ∧
      ∀ tail, rest = '/' :: tail → Naming.relativeRoute module route = String.ofList rest := by
  unfold Naming.relativeRoute
  simp only [h, Text.after?_append]
  constructor
  · rintro rfl
    rfl
  · rintro tail rfl
    rfl

/-- Without braces in the module, a route of it is served at the module and what is left of the
template. -/
theorem servedUrl_of_plain {module path : String} {mount : Mount} (hm : mount.path = "/" ++ module)
    (hopen : '{' ∉ module.toList) (hclose : '}' ∉ module.toList) {rest : List Char}
    (hr : Text.dropLeading '/' (routeTemplate path).toList = module.toList ++ rest)
    (hs : rest = [] ∨ ∃ tail, rest = '/' :: tail) :
    (mount.servedUrl (Naming.relativeRoute module (routeTemplate path))).toList =
      '/' :: (module.toList ++ if rest = ['/'] then [] else rest) := by
  have hplain : (routeTemplate module).toList = module.toList := by
    rw [routeTemplate_toList, flatMap_templateChar_eq_self hopen hclose]
  rw [← hplain] at hr
  obtain ⟨hnil, hcons⟩ := relativeRoute_of_prefix hr
  rcases hs with hs | ⟨tail, hs⟩
  · simp [Mount.servedUrl, hnil hs, hm, hs]
  · rw [Mount.servedUrl, hcons tail hs, hm]
    have hroot : String.ofList rest = "/" ↔ rest = ['/'] := by
      rw [← String.toList_inj, String.toList_ofList]
      rfl
    by_cases h : rest = ['/'] <;> simp [h, hroot]

theorem describedUrl_toList {module path : String} {rest : List Char}
    (hr : Text.dropLeading '/' (routeTemplate path).toList = module.toList ++ rest) :
    (describedUrl module path).toList =
      if Text.dropLeading '/' path.toList = module.toList ++ ['/']
      then ('/' :: (module.toList ++ rest)).dropLast else '/' :: (module.toList ++ rest) := by
  unfold describedUrl
  rw [hr]
  split <;> simp only [String.toList_ofList]

theorem brace_not_mem_describedUrl (module path : String) :
    '{' ∉ (describedUrl module path).toList ∧ '}' ∉ (describedUrl module path).toList := by
  have hurl : ∀ c ∈ (describedUrl module path).toList,
      c = '/' ∨ c ∈ (routeTemplate path).toList := by
    intro c hc
    have hdrop : ∀ d ∈ '/' :: Text.dropLeading '/' (routeTemplate path).toList,
        d = '/' ∨ d ∈ (routeTemplate path).toList := by
      intro d hd
      rcases List.mem_cons.mp hd with hd | hd
      · exact .inl hd
      · exact .inr (List.dropWhile_subset _ hd)
    unfold describedUrl at hc
    split at hc <;> rw [String.toList_ofList] at hc
    · exact hdrop c (List.dropLast_subset _ hc)
    · exact hdrop c hc
  obtain ⟨hopen, hclose⟩ := brace_not_mem_routeTemplate path
  constructor
  · intro h
    rcases hurl _ h with h | h
    · cases h
    · exact hopen h
  · intro h
    rcases hurl _ h with h | h
    · cases h
    · exact hclose h

/-- Only closing braces leave nothing behind, so a slash comes from a slash in front of them. -/
theorem flatMap_templateChar_eq_slash_iff {tail : List Char} :
    ('/' :: tail).flatMap templateChar = ['/'] ↔ ∃ n, tail = List.replicate n '}' := by
  have hnil : ∀ c, templateChar c = [] ↔ c = '}' := by
    intro c
    by_cases hopen : c = '{'
    · simp [templateChar, hopen]
    · by_cases hclose : c = '}' <;> simp [templateChar, hopen, hclose]
  have htail : ('/' :: tail).flatMap templateChar = ['/'] ↔ ∀ c ∈ tail, c = '}' := by
    rw [List.flatMap_cons, templateChar_eq_self (by decide) (by decide)]
    simp [hnil]
  rw [htail]
  constructor
  · intro h
    exact ⟨tail.length, List.eq_replicate_iff.mpr ⟨rfl, h⟩⟩
  · rintro ⟨n, rfl⟩ c hc
    exact List.eq_of_mem_replicate hc

theorem dropLeading_routeTemplate {module path : String} {rest : List Char}
    (hopen : '{' ∉ module.toList) (hclose : '}' ∉ module.toList)
    (hne : module.toList ≠ []) (hslash : '/' ∉ module.toList)
    (hr : Text.dropLeading '/' path.toList = module.toList ++ rest) :
    Text.dropLeading '/' (routeTemplate path).toList
      = module.toList ++ rest.flatMap templateChar := by
  obtain ⟨c, cs, hc⟩ := List.exists_cons_of_ne_nil hne
  have hcs : c ≠ '/' := fun e => hslash (by simp [hc, e])
  rw [routeTemplate_toList, Text.dropLeading_flatMap (by rfl), hr, List.flatMap_append,
    flatMap_templateChar_eq_self hopen hclose, hc, List.cons_append,
    Text.dropLeading_cons_of_ne hcs]

theorem servedUrl_eq_describedUrl_of_plain {module path : String} {mount : Mount}
    (hm : mount.path = "/" ++ module) (hpath : moduleOf? path = some module)
    (hopen : '{' ∉ module.toList) (hclose : '}' ∉ module.toList) :
    mount.servedUrl (Naming.relativeRoute module (routeTemplate path)) = describedUrl module path ↔
      ¬EndsInClosingBraces module path := by
  obtain ⟨hne, hslash, rest, hr, hs⟩ := moduleOf?_eq_some hpath
  have ht := dropLeading_routeTemplate hopen hclose hne hslash hr
  have hs' : rest.flatMap templateChar = [] ∨ ∃ tail, rest.flatMap templateChar = '/' :: tail := by
    rcases hs with rfl | ⟨tail, rfl⟩
    · exact .inl rfl
    · exact .inr ⟨tail.flatMap templateChar, rfl⟩
  have hbare : Text.dropLeading '/' path.toList = module.toList ++ ['/'] ↔ rest = ['/'] := by
    rw [hr, List.append_cancel_left_eq]
  have hends : EndsInClosingBraces module path ↔
      rest.flatMap templateChar = ['/'] ∧ rest ≠ ['/'] := by
    simp only [EndsInClosingBraces, hr, List.append_cancel_left_eq]
    rcases hs with rfl | ⟨tail, rfl⟩
    · simp
    · rw [flatMap_templateChar_eq_slash_iff]
      constructor
      · rintro ⟨n, hn⟩
        exact ⟨⟨n + 1, (List.cons.inj hn).2⟩, by simp [hn, List.replicate_succ]⟩
      · rintro ⟨⟨n, rfl⟩, hn⟩
        cases n with
        | zero => exact absurd rfl hn
        | succ n => exact ⟨n, rfl⟩
  rw [hends, ← String.toList_inj, servedUrl_of_plain hm hopen hclose ht hs',
    describedUrl_toList ht]
  simp only [hbare]
  by_cases hb : rest = ['/']
  · have hslashes : rest.flatMap templateChar = ['/'] := by rw [hb]; rfl
    have hlast : ('/' :: (module.toList ++ ['/'])).dropLast = '/' :: module.toList := by
      rw [← List.cons_append, List.dropLast_concat]
    simp only [hslashes, hlast, if_pos hb]
    simp [hb]
  · by_cases hslashes : rest.flatMap templateChar = ['/'] <;> simp [hslashes, hb]

/-- A route answers at the URL that its path template describes exactly where its module has no
braces: the path of a mount is the module as it stands, while routes are translated. -/
theorem servedUrl_eq_describedUrl_iff (modules : List String) {module path : String}
    {mount : Mount} (hpath : moduleOf? path = some module)
    (hmount : (module, mount) ∈ modules.zip (MainRouter.ofModules modules).mounts) :
    mount.servedUrl (Naming.relativeRoute module (routeTemplate path)) = describedUrl module path ↔
      '{' ∉ module.toList ∧ '}' ∉ module.toList ∧ ¬EndsInClosingBraces module path := by
  have hm := MainRouter.mount_path hmount
  constructor
  · intro h
    have hkept : ∀ c ∈ module.toList, c ∈ (describedUrl module path).toList := by
      intro c hc
      rw [← h, Mount.servedUrl, hm]
      simp [hc]
    obtain ⟨hopen, hclose⟩ := brace_not_mem_describedUrl module path
    have hopen := fun hc => hopen (hkept _ hc)
    have hclose := fun hc => hclose (hkept _ hc)
    exact ⟨hopen, hclose, (servedUrl_eq_describedUrl_of_plain hm hpath hopen hclose).mp h⟩
  · rintro ⟨hopen, hclose, hends⟩
    exact (servedUrl_eq_describedUrl_of_plain hm hpath hopen hclose).mpr hends

/-- The router of `/users/{id}` is mounted at `/users`, behind another one. -/
theorem servedUrl_eq_describedUrl_users :
    moduleOf? "/users/\x7bid\x7d" = some "users" ∧
      ("users", ⟨"usersRouter", "/users"⟩)
        ∈ ["orders", "users"].zip (MainRouter.ofModules ["orders", "users"]).mounts ∧
      (Mount.servedUrl ⟨"usersRouter", "/users"⟩
          (Naming.relativeRoute "users" (routeTemplate "/users/\x7bid\x7d"))
        = describedUrl "users" "/users/\x7bid\x7d" ↔
      '{' ∉ "users".toList ∧ '}' ∉ "users".toList ∧
        ¬EndsInClosingBraces "users" "/users/\x7bid\x7d") :=
  ⟨by decide, by decide, servedUrl_eq_describedUrl_iff ["orders", "users"] (by decide) (by decide)⟩

/-- A parameter in the module itself stays as it was written: what is described at `/:tenant/users`
answers at `/{tenant}/users`. -/
theorem servedUrl_of_parameter_in_module :
    moduleOf? "/\x7btenant\x7d/users" = some "\x7btenant\x7d" ∧
      (MainRouter.ofModules ["\x7btenant\x7d"]).mounts = [⟨"tenantRouter", "/\x7btenant\x7d"⟩] ∧
      Mount.servedUrl ⟨"tenantRouter", "/\x7btenant\x7d"⟩
          (Naming.relativeRoute "\x7btenant\x7d" (routeTemplate "/\x7btenant\x7d/users"))
        = "/\x7btenant\x7d/users" ∧
      describedUrl "\x7btenant\x7d" "/\x7btenant\x7d/users" = "/:tenant/users" := by
  decide

end OpenApiGen
