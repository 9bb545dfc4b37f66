import Tengen.RouteResolver
/-!
# The order of the routes

Which of the nodes on a request's path `resolve` (`tengen/n8n/route_resolver.py`) takes.  The nodes are the paths of
`candidates`, the most specific first, as the documentation lists them; `tried` is the order the nested conditionals come
to, which asks a vendor, and then a category, whether it is a leaf before it looks below it (`answer_eq`).
`resolve_mostSpecific_iff` says when the two orders find the same depth.
-/
namespace Tengen

variable (routes : List (Yaml × Yaml)) (vendor category : String) (eventType : Option String)

/-- What a node has under a key. -/
def child (key : String) : Option Yaml → Option Yaml
  | some (.map l) => Yaml.get key l
  | _ => none

def nodeAt (path : List String) : Option Yaml := path.foldl (fun node key => child key node) (some (.map routes))

def pathText : List String → String
  | [] => ""
  | key :: path => path.foldl (fun text key => text ++ "." ++ key) key

/-- The match a node is, if it carries a webhook. -/
def carried (path : List String) : Option RouteMatch := leaf (nodeAt routes path) (pathText path)

/-- The nodes on the path of a request, the most specific first. -/
def candidates : List (List String) :=
  (eventType.map fun e => [vendor, category, e]).toList ++
    [[vendor, category, "_default"], [vendor, category], [vendor, "_default"], [vendor], ["_default"]]

/-- Where an event type is given, which an empty one is not. -/
def given : Option String := eventType.filter (· ≠ "")

/-- The same nodes in the order they are tried. -/
def tried : List (List String) :=
  [[vendor], [vendor, category]] ++ ((given eventType).map fun e => [vendor, category, e]).toList ++
    [[vendor, category, "_default"], [vendor, "_default"], ["_default"]]

/-! ## What the conditionals come to -/

theorem branch_eq_some {node : Option Yaml} {l : List (Yaml × Yaml)} (h : branch node = some l) :
    node = some (.map l) ∧ ∀ path, leaf node path = none := by
  unfold branch at h
  split at h
  · rename_i l'
    split at h
    · cases h
    · rename_i hc
      cases h
      refine ⟨rfl, fun path => ?_⟩
      rw [Bool.not_eq_true, Bool.or_eq_false_iff, Option.isSome_eq_false_iff, Option.isNone_iff_eq_none] at hc
      rw [leaf, hc.2, Option.map_none]
  · cases h

/-- A node that is no branch is a leaf, or has nothing under it. -/
theorem child_of_branch_none {node : Option Yaml} (h : branch node = none) (path : String)
    (hleaf : leaf node path = none) (key : String) : child key node = none := by
  unfold branch at h
  split at h
  · rename_i l
    rw [leaf, Option.map_eq_none_iff] at hleaf
    rw [hleaf] at h
    cases l with
    | nil => rfl
    | cons p l => simp at h
  · unfold child
    split
    · rename_i hne
      exact absurd rfl (hne _)
    · rfl

/-- A level of the conditionals: the node itself if it is a leaf, and else what is found under it. -/
theorem level_eq {node : Option Yaml} {path : String} {under : List (Yaml × Yaml) → Option RouteMatch}
    {found : Option RouteMatch} (hunder : ∀ l, node = some (.map l) → under l = found)
    (hfound : (∀ key, child key node = none) → found = none) :
    (match branch node with
      | some l => under l
      | none => leaf node path) = (leaf node path).or found := by
  cases hb : branch node with
  | some l =>
    obtain ⟨hnode, hleaf⟩ := branch_eq_some hb
    simp only [hleaf, Option.none_or, hunder l hnode]
  | none =>
    cases hleaf : leaf node path with
    | some m => rfl
    | none =>
      simp only [Option.none_or]
      exact (hfound (child_of_branch_none hb path hleaf)).symm

theorem carried_of_child {path : List String} {key : String} (h : child key (nodeAt routes path) = none) :
    carried routes (path ++ [key]) = none := by
  have hnode : nodeAt routes (path ++ [key]) = child key (nodeAt routes path) := by
    simp only [nodeAt, List.foldl_append, List.foldl_cons, List.foldl_nil]
  rw [carried, hnode, h]
  rfl

theorem default_text (text : String) : text ++ "._default" = text ++ "." ++ "_default" := by
  rw [String.append_assoc]
  rfl

/-- What is found at the event type, if one is given. -/
def eventCarried : Option RouteMatch := (given eventType).bind fun e => carried routes [vendor, category, e]

theorem matchEvent_eq {l : List (Yaml × Yaml)} (hnode : nodeAt routes [vendor, category] = some (.map l)) :
    matchEvent l (vendor ++ "." ++ category) eventType = eventCarried routes vendor category eventType := by
  have hchild : ∀ key, nodeAt routes [vendor, category, key] = Yaml.get key l := by
    intro key
    change child key (nodeAt routes [vendor, category]) = _
    rw [hnode]
    rfl
  unfold matchEvent eventCarried
  split
  · rfl
  · rfl
  · rename_i e hne
    have hgiven : given (some e) = some e := Option.filter_some_pos (by simpa using hne)
    rw [hgiven, Option.bind_some, carried, hchild]
    rfl

theorem matchCategory_eq {l : List (Yaml × Yaml)} (hnode : nodeAt routes [vendor] = some (.map l)) :
    matchCategory l vendor category eventType = (carried routes [vendor, category]).or
      ((eventCarried routes vendor category eventType).or (carried routes [vendor, category, "_default"])) := by
  have hget : Yaml.get category l = nodeAt routes [vendor, category] := by
    change _ = child category (nodeAt routes [vendor])
    rw [hnode]
    rfl
  unfold matchCategory
  rw [hget]
  refine level_eq (fun l' hl' => ?_) fun hchild => ?_
  · rw [matchEvent_eq routes vendor category eventType hl']
    have hd : Yaml.get "_default" l' = nodeAt routes [vendor, category, "_default"] := by
      change _ = child "_default" (nodeAt routes [vendor, category])
      rw [hl']
      rfl
    rw [hd, default_text]
    rfl
  · have hc : ∀ key, carried routes [vendor, category, key] = none := fun key => carried_of_child routes (hchild key)
    simp only [eventCarried, hc, Option.bind_fun_none, Option.or_none]

theorem matchVendor_eq : matchVendor routes vendor category eventType = (carried routes [vendor]).or
    (((carried routes [vendor, category]).or ((eventCarried routes vendor category eventType).or
      (carried routes [vendor, category, "_default"]))).or (carried routes [vendor, "_default"])) := by
  have hget : Yaml.get vendor routes = nodeAt routes [vendor] := rfl
  unfold matchVendor
  rw [hget]
  refine level_eq (fun l hl => ?_) fun hchild => ?_
  · rw [matchCategory_eq routes vendor category eventType hl]
    have hd : Yaml.get "_default" l = nodeAt routes [vendor, "_default"] := by
      change _ = child "_default" (nodeAt routes [vendor])
      rw [hl]
      rfl
    rw [hd, default_text]
    rfl
  · have hc : ∀ key, carried routes [vendor, key] = none := fun key => carried_of_child routes (hchild key)
    have hc2 : ∀ key, carried routes [vendor, category, key] = none := by
      intro key
      have hnode : nodeAt routes [vendor, category] = none := hchild category
      have hbelow : child key (nodeAt routes [vendor, category]) = none := by
        rw [hnode]
        rfl
      exact carried_of_child routes hbelow
    simp only [eventCarried, hc, hc2, Option.bind_fun_none, Option.or_none]

theorem findSome?_cons_or {α β : Type} (f : α → Option β) (a : α) (l : List α) :
    (a :: l).findSome? f = (f a).or (l.findSome? f) := by
  rw [List.findSome?_cons]
  cases f a <;> rfl

theorem findSome?_toList {α β γ : Type} (f : β → Option γ) (g : α → β) (o : Option α) :
    (o.map g).toList.findSome? f = o.bind fun a => f (g a) := by
  cases o with
  | none => rfl
  | some a => exact (findSome?_cons_or f (g a) []).trans (Option.or_none)

theorem tried_eq : (tried vendor category eventType).findSome? (carried routes) =
    (carried routes [vendor]).or ((carried routes [vendor, category]).or
      ((eventCarried routes vendor category eventType).or ((carried routes [vendor, category, "_default"]).or
        ((carried routes [vendor, "_default"]).or (carried routes ["_default"]))))) := by
  unfold eventCarried tried
  simp only [List.findSome?_append, findSome?_toList, findSome?_cons_or, List.findSome?_nil, Option.or_none,
    Option.or_assoc]

/-- **The conditionals try the nodes in turn.** -/
theorem answer_eq : answer routes vendor category eventType =
    match (tried vendor category eventType).findSome? (carried routes) with
    | some found => .ok found
    | none => .error (.noRoute ("No route for vendor=" ++ vendor ++ ", category=" ++ category ++ ", event_type=" ++
        eventType.getD "None")) := by
  have hfind : (tried vendor category eventType).findSome? (carried routes) =
      (matchVendor routes vendor category eventType).or (carried routes ["_default"]) := by
    simp only [matchVendor_eq, tried_eq, Option.or_assoc]
  rw [hfind]
  rfl

/-! ## The most specific node -/

theorem findSome?_max {α β : Type} {f : α → Option β} {rank : α → Nat} {b : β} : ∀ {l : List α},
    l.Pairwise (fun p q => rank q ≤ rank p) → l.findSome? f = some b →
    ∃ p ∈ l, f p = some b ∧ ∀ q ∈ l, (f q).isSome = true → rank q ≤ rank p
  | p :: l, hl, h => by
    rw [List.pairwise_cons] at hl
    rw [findSome?_cons_or] at h
    cases hp : f p with
    | some b' =>
      rw [hp] at h
      cases h
      refine ⟨p, List.mem_cons_self, hp, fun q hq _ => ?_⟩
      rcases List.mem_cons.1 hq with rfl | hq
      · exact Nat.le_refl _
      · exact hl.1 q hq
    | none =>
      rw [hp, Option.none_or] at h
      obtain ⟨p', hp', hb, hmax⟩ := findSome?_max hl.2 h
      refine ⟨p', List.mem_cons_of_mem p hp', hb, fun q hq hs => ?_⟩
      rcases List.mem_cons.1 hq with rfl | hq
      · rw [hp] at hs
        cases hs
      · exact hmax q hq hs

/-- What is found is a node of maximal depth, the exact match if there is one; and nothing is found only where no node
carries a webhook. -/
def MostSpecific : Except ResolveError RouteMatch → Prop
  | .ok found =>
    (∃ p ∈ candidates vendor category eventType, carried routes p = some found ∧
      ∀ q ∈ candidates vendor category eventType, (carried routes q).isSome = true → q.length ≤ p.length) ∧
    ∀ e exact, eventType = some e → carried routes [vendor, category, e] = some exact → found = exact
  | .error (.noRoute _) => ∀ p ∈ candidates vendor category eventType, carried routes p = none
  | .error _ => False

/-- The first candidate that carries a webhook. -/
def mostSpecific : Option RouteMatch := (candidates vendor category eventType).findSome? (carried routes)

theorem pairwise_candidates :
    (candidates vendor category eventType).Pairwise fun p q => q.length ≤ p.length := by
  cases eventType with
  | none => simp [candidates]
  | some e => simp [candidates]

theorem mostSpecific_eq : mostSpecific routes vendor category eventType =
    (eventType.bind fun e => carried routes [vendor, category, e]).or ((carried routes [vendor, category, "_default"]).or
      ((carried routes [vendor, category]).or ((carried routes [vendor, "_default"]).or
        ((carried routes [vendor]).or (carried routes ["_default"]))))) := by
  unfold mostSpecific candidates
  simp only [List.findSome?_append, findSome?_toList, findSome?_cons_or, List.findSome?_nil, Option.or_none]

/-- **The first candidate is the most specific.** -/
theorem mostSpecific_spec (text : String) : MostSpecific routes vendor category eventType
    (match mostSpecific routes vendor category eventType with
      | some found => .ok found
      | none => .error (.noRoute text)) := by
  cases h : mostSpecific routes vendor category eventType with
  | none => exact List.findSome?_eq_none_iff.1 h
  | some found =>
    refine ⟨findSome?_max (pairwise_candidates vendor category eventType) h, fun e exact he hexact => ?_⟩
    rw [mostSpecific_eq, he, Option.bind_some, hexact, Option.some_or, Option.some.injEq] at h
    exact h.symm

/-- No leaf hides a more specific one, and no webhook stands under an empty event type. -/
structure Unhidden : Prop where
  vendor_leaf : (carried routes [vendor]).isSome = true →
    ∀ p ∈ candidates vendor category eventType, 2 ≤ p.length → carried routes p = none
  category_leaf : (carried routes [vendor, category]).isSome = true →
    ∀ p ∈ candidates vendor category eventType, 3 ≤ p.length → carried routes p = none
  empty_event : eventType = some "" → carried routes [vendor, category, ""] = none

theorem mem_candidates_of_default : [vendor, category, "_default"] ∈ candidates vendor category eventType ∧
    [vendor, category] ∈ candidates vendor category eventType ∧
    [vendor, "_default"] ∈ candidates vendor category eventType := by
  simp [candidates]

theorem mem_candidates_event (e : String) : [vendor, category, e] ∈ candidates vendor category (some e) := by
  simp [candidates]

section Unhidden

variable {routes vendor category eventType}

theorem Unhidden.exact_none (h : Unhidden routes vendor category eventType)
    (hleaf : (carried routes [vendor]).isSome = true ∨ (carried routes [vendor, category]).isSome = true) :
    (eventType.bind fun e => carried routes [vendor, category, e]) = none := by
  rw [Option.bind_eq_none_iff]
  rintro e rfl
  have hmem := mem_candidates_event vendor category e
  rcases hleaf with hv | hc
  · exact h.vendor_leaf hv _ hmem (by simp)
  · exact h.category_leaf hc _ hmem (by simp)

/-- **Where no leaf hides anything, the node tried first is the most specific.** -/
theorem Unhidden.finds_mostSpecific (h : Unhidden routes vendor category eventType) :
    (tried vendor category eventType).findSome? (carried routes) = mostSpecific routes vendor category eventType := by
  obtain ⟨hd3, hc2, hd2⟩ := mem_candidates_of_default vendor category eventType
  rw [tried_eq, mostSpecific_eq]
  cases hv : carried routes [vendor] with
  | some found =>
    have hleaf : (carried routes [vendor]).isSome = true := by rw [hv]; rfl
    rw [h.exact_none (Or.inl hleaf), h.vendor_leaf hleaf _ hd3 (by simp), h.vendor_leaf hleaf _ hc2 (by simp),
      h.vendor_leaf hleaf _ hd2 (by simp)]
    rfl
  | none =>
    cases hc : carried routes [vendor, category] with
    | some found =>
      have hleaf : (carried routes [vendor, category]).isSome = true := by rw [hc]; rfl
      rw [h.exact_none (Or.inr hleaf), h.category_leaf hleaf _ hd3 (by simp)]
      rfl
    | none =>
      have he : (eventType.bind fun e => carried routes [vendor, category, e]) =
          eventCarried routes vendor category eventType := by
        unfold eventCarried given
        cases eventType with
        | none => rfl
        | some e =>
          by_cases hne : e = ""
          · subst hne
            exact h.empty_event rfl
          · rw [Option.filter_some_pos (by simpa using hne)]
      rw [he]
      rfl

end Unhidden

/-! ## Where a leaf hides a route -/

theorem routePath_of_carried {path : List String} {found : RouteMatch} (h : carried routes path = some found) :
    found.routePath = pathText path := by
  unfold carried leaf at h
  split at h
  · obtain ⟨url, -, rfl⟩ := Option.map_eq_some_iff.1 h
    rfl
  · cases h

theorem pathText_append (path : List String) (key : String) (h : path ≠ []) :
    pathText (path ++ [key]) = pathText path ++ "." ++ key := by
  cases path with
  | nil => exact absurd rfl h
  | cons k path =>
    simp only [pathText, List.cons_append, List.foldl_append, List.foldl_cons, List.foldl_nil]

/-- A node under another has the longer path. -/
theorem pathText_lt (path : List String) (key : String) (h : path ≠ []) :
    (pathText path).length < (pathText (path ++ [key])).length := by
  rw [pathText_append path key h, String.length_append, String.length_append]
  have : ".".length = 1 := rfl
  omega

theorem pathText_le {path : List String} (h : path ≠ []) : ∀ rest : List String,
    (pathText path).length ≤ (pathText (path ++ rest)).length
  | [] => by rw [List.append_nil]
  | key :: rest => by
    have hne : path ++ [key] ≠ [] := List.append_ne_nil_of_left_ne_nil h [key]
    rw [List.append_cons]
    exact (pathText_lt path key h).le.trans (pathText_le hne rest)

/-- A node anywhere below another has the longer path. -/
theorem pathText_lt_of_prefix {node path : List String} (h : node ≠ []) (hbelow : node <+: path)
    (hlen : node.length < path.length) : (pathText node).length < (pathText path).length := by
  obtain ⟨rest, rfl⟩ := hbelow
  cases rest with
  | nil => exact absurd hlen (by rw [List.append_nil]; exact Nat.lt_irrefl _)
  | cons key rest =>
    have hne : node ++ [key] ≠ [] := List.append_ne_nil_of_left_ne_nil h [key]
    rw [List.append_cons]
    exact (pathText_lt node key h).trans_le (pathText_le hne rest)

theorem default_ne_empty (text text' : String) : text ++ "_default" ≠ text' ++ "." ++ "" := by
  intro h
  have hlast := congrArg (fun s : String => s.toList.getLast?) h
  simp at hlast

/-- A candidate is below the vendor, and below the category, where it is deep enough. -/
theorem prefix_of_mem_candidates {p : List String} (hp : p ∈ candidates vendor category eventType) :
    (2 ≤ p.length → [vendor] <+: p) ∧ (3 ≤ p.length → [vendor, category] <+: p) := by
  simp only [candidates, List.mem_append, Option.mem_toList, Option.map_eq_some_iff, List.mem_cons,
    List.not_mem_nil, or_false] at hp
  rcases hp with ⟨e, -, rfl⟩ | rfl | rfl | rfl | rfl | rfl <;> simp

section Hidden

variable {routes vendor category eventType}

/-- What is found at a node hides none below it. -/
theorem MostSpecific.deeper_none {found : RouteMatch} {node : List String}
    (h : MostSpecific routes vendor category eventType (.ok found)) (hfound : carried routes node = some found)
    (hne : node ≠ [])
    (hbelow : ∀ p ∈ candidates vendor category eventType, node.length + 1 ≤ p.length → node <+: p) :
    ∀ p ∈ candidates vendor category eventType, node.length + 1 ≤ p.length → carried routes p = none := by
  intro q hq hlen
  cases hc : carried routes q with
  | none => rfl
  | some other =>
    obtain ⟨⟨p, hp, hpfound, hmax⟩, -⟩ := h
    have hqp := hmax q hq (by rw [hc]; rfl)
    have hdeep : node.length + 1 ≤ p.length := Nat.le_trans hlen hqp
    have hlonger := pathText_lt_of_prefix hne (hbelow p hp hdeep) hdeep
    have htext : pathText node = pathText p := by
      rw [← routePath_of_carried routes hfound, ← routePath_of_carried routes hpfound]
    rw [htext] at hlonger
    exact absurd hlonger (Nat.lt_irrefl _)

theorem tried_empty (found : RouteMatch)
    (h : (tried vendor category (some "")).findSome? (carried routes) = some found) :
    found.routePath ≠ pathText [vendor, category, ""] := by
  obtain ⟨p, hp, hfound⟩ := List.exists_of_findSome?_eq_some h
  rw [routePath_of_carried routes hfound]
  have hlt := pathText_lt [vendor, category] "" (List.cons_ne_nil _ _)
  have hlt' := pathText_lt [vendor] category (List.cons_ne_nil _ _)
  have hgiven : given (some "") = none := rfl
  simp only [tried, hgiven, Option.map_none, Option.toList_none, List.append_nil, List.cons_append, List.nil_append,
    List.mem_cons, List.not_mem_nil, or_false] at hp
  intro htext
  rcases hp with rfl | rfl | rfl | rfl | rfl
  · rw [htext] at hlt'
    exact absurd (hlt'.trans hlt) (Nat.lt_irrefl _)
  · rw [htext] at hlt
    exact absurd hlt (Nat.lt_irrefl _)
  · exact default_ne_empty (vendor ++ "." ++ category ++ ".") (vendor ++ "." ++ category) htext
  · exact default_ne_empty (vendor ++ ".") (vendor ++ "." ++ category) htext
  · exact default_ne_empty "" (vendor ++ "." ++ category) htext

theorem Unhidden.of_mostSpecific
    (h : MostSpecific routes vendor category eventType (answer routes vendor category eventType)) :
    Unhidden routes vendor category eventType := by
  rw [answer_eq] at h
  have hvendor : (carried routes [vendor]).isSome = true →
      ∀ p ∈ candidates vendor category eventType, 2 ≤ p.length → carried routes p = none := by
    intro hv
    obtain ⟨found, hfound⟩ := Option.isSome_iff_exists.1 hv
    rw [tried_eq, hfound, Option.some_or] at h
    exact h.deeper_none hfound (List.cons_ne_nil _ _) fun p hp =>
      (prefix_of_mem_candidates vendor category eventType hp).1
  refine ⟨hvendor, fun hc => ?_, fun he => ?_⟩
  · have hv : carried routes [vendor] = none := by
      by_contra hne
      have hnone := hvendor (Option.isSome_iff_ne_none.2 hne) [vendor, category]
        (mem_candidates_of_default vendor category eventType).2.1 (by simp)
      rw [hnone] at hc
      cases hc
    obtain ⟨found, hfound⟩ := Option.isSome_iff_exists.1 hc
    rw [tried_eq, hv, hfound, Option.none_or, Option.some_or] at h
    exact h.deeper_none hfound (List.cons_ne_nil _ _) fun p hp =>
      (prefix_of_mem_candidates vendor category eventType hp).2
  · subst he
    cases hexact : carried routes [vendor, category, ""] with
    | none => rfl
    | some exact =>
      cases hfind : (tried vendor category (some "")).findSome? (carried routes) with
      | none =>
        rw [hfind] at h
        rw [h _ (mem_candidates_event vendor category "")] at hexact
        cases hexact
      | some found =>
        rw [hfind] at h
        have hfound := h.2 "" exact rfl hexact
        have htext := routePath_of_carried routes hexact
        rw [← hfound] at htext
        exact absurd htext (tried_empty found hfind)

end Hidden

/-- **Resolution is most specific first exactly when** no leaf hides a more specific route, and no webhook stands under
an empty event type. -/
theorem resolve_mostSpecific_iff (file : SpecFile) (opened stated : Option SpecFile) :
    MostSpecific routes vendor category eventType
        ((⟨file.mtime, .map routes⟩ : RouteResolver).resolve (some file) opened stated vendor category eventType).1 ↔
      Unhidden routes vendor category eventType := by
  rw [RouteResolver.resolve_of_map (RouteResolver.reloadIfChanged_of_same rfl opened stated) rfl]
  constructor
  · exact fun h => Unhidden.of_mostSpecific h
  · intro h
    rw [answer_eq, h.finds_mostSpecific]
    exact mostSpecific_spec routes vendor category eventType _

def hiddenRoutes : List (Yaml × Yaml) :=
  [(.str "aws", .map [(.str "webhook", .str "https://n8n/aws"),
    (.str "cloudtrail", .map [(.str "root_login", .map [(.str "webhook", .str "https://n8n/root-login")])])])]

/-- A webhook of `aws` itself hides that of `aws.cloudtrail.root_login`. -/
theorem vendor_leaf_hides : ¬ MostSpecific hiddenRoutes "aws" "cloudtrail" (some "root_login")
    ((⟨1, .map hiddenRoutes⟩ : RouteResolver).resolve (some ⟨1, none⟩) none none "aws" "cloudtrail"
      (some "root_login")).1 := by
  rw [RouteResolver.resolve_of_map (RouteResolver.reloadIfChanged_of_same rfl none none) rfl]
  intro h
  have hleaf := (Unhidden.of_mostSpecific h).vendor_leaf rfl _
    (mem_candidates_event "aws" "cloudtrail" "root_login") (by decide)
  cases hleaf

end Tengen
