import SurfaceStudio.Proofs.Surface.RoundTrip
import SurfaceStudio.Surface.Template

/-!
# The built-in surfaces

The surface at the start and the templates are built like any others, and their texts are well
within what a reader takes.

  • `Template.builtIn` — the surfaces that come with the studio,
  • `Template.obtained_builtIn` — all of them are made from built nodes,
  • `Template.parse_pretty_builtIn` — **their texts are parsed as themselves**.
-/

namespace SurfaceStudio.Template

open Json Node

/-! ## §1. Parts. -/

theorem built_textNode (content variant : String) : (textNode content variant).Built :=
  ((Built.new "Text").withProp "text" (canonical_string _)).withProp "variant" (canonical_string _)

theorem built_buttonNode (label : String) : (buttonNode label).Built :=
  ((Built.new "Button").withProp "label" (canonical_string _)).withProp "variant"
    (canonical_string _)

theorem built_barNode (label : String) (value : Nat) (color : String) (h : value < 0x100000000) :
    (barNode label value color h).Built :=
  (((Built.new "StatBar").withProp "label" (canonical_string _)).withProp "value"
    (canonical_number _)).withProp "color" (canonical_string _)

theorem built_cardNode (title : String) {children : List Node} (h : ∀ c ∈ children, c.Built) :
    (cardNode title children).Built :=
  ((Built.new "Card").withProp "title" (canonical_string _)).withChildren fun c hc =>
    .built (h c hc)

theorem built_imageNode (src alt caption : String) : (imageNode src alt caption).Built :=
  (((Built.new "Image").withProp "src" (canonical_string _)).withProp "alt"
    (canonical_string _)).withProp "caption" (canonical_string _)

theorem canonical_lines (items : List String) : (lines items).Canonical := by
  refine canonical_array_iff.2 fun v hv => ?_
  obtain ⟨item, -, rfl⟩ := List.mem_map.1 hv
  exact canonical_string item

theorem built_listNode (items : List String) :
    ((Node.new "List").withProp "items" (lines items)).Built :=
  (Built.new "List").withProp "items" (canonical_lines items)

theorem built_titledListNode (title : String) (items : List String) :
    (((Node.new "List").withProp "title" (.string title)).withProp "items" (lines items)).Built :=
  ((Built.new "List").withProp "title" (canonical_string _)).withProp "items"
    (canonical_lines items)

/-! ## §2. Surfaces. -/

/-- The surfaces that come with the studio. -/
def builtIn : List Surface := Surface.welcome :: all.map Template.surface

theorem obtained_welcome : Surface.welcome.Obtained := by
  refine .new _ ?_
  simp only [List.forall_mem_cons]
  refine ⟨built_textNode _ _, built_cardNode _ ?_, built_cardNode _ ?_, fun _ h => nomatch h⟩
  · simp [built_textNode, built_buttonNode]
  · simp [built_textNode]

theorem obtained_shoppingCart : shoppingCart.Obtained := by
  refine .new _ ?_
  simp only [List.forall_mem_cons]
  refine ⟨built_textNode _ _, built_cardNode _ ?_, fun _ h => nomatch h⟩
  simp [built_imageNode, built_titledListNode, built_buttonNode]

theorem obtained_weatherForecast : weatherForecast.Obtained := by
  refine .new _ ?_
  simp only [List.forall_mem_cons]
  refine ⟨built_textNode _ _, built_cardNode _ ?_, fun _ h => nomatch h⟩
  simp [built_textNode, built_barNode, built_listNode]

theorem obtained_serverDashboard : serverDashboard.Obtained := by
  refine .new _ ?_
  simp only [List.forall_mem_cons]
  refine ⟨built_textNode _ _, built_cardNode _ ?_, fun _ h => nomatch h⟩
  simp [built_imageNode, built_barNode]

/-- **The built-in surfaces are made from built nodes.** -/
theorem obtained_builtIn : ∀ s ∈ builtIn, s.Obtained := by
  show ∀ s ∈ [Surface.welcome, shoppingCart, weatherForecast, serverDashboard], s.Obtained
  simp only [List.forall_mem_cons]
  exact ⟨obtained_welcome, obtained_shoppingCart, obtained_weatherForecast,
    obtained_serverDashboard, fun _ h => nomatch h⟩

/-- They are nested far less than a text may be, and there are only integers in them. -/
theorem bounds_builtIn : ∀ s ∈ builtIn, s.toJson.nesting ≤ bracketBudget
    ∧ s.toJson.numbers.all Number.isInteger = true := by decide

theorem legible_builtIn : ∀ s ∈ builtIn, s.toJson.Legible bracketBudget := by
  intro s hs
  obtain ⟨hnesting, hnumbers⟩ := bounds_builtIn s hs
  exact ⟨hnesting, fun n hn => Number.readsBack_of_isInteger (List.all_eq_true.1 hnumbers n hn)⟩

/-- **The texts of the built-in surfaces are parsed as these surfaces.** -/
theorem parse_pretty_builtIn : ∀ s ∈ builtIn, Surface.parse s.pretty = .ok s := fun s hs =>
  Surface.parse_write (obtained_builtIn s hs).sound Layout.plain_indented (legible_builtIn s hs)

theorem parse_pretty_of_mem {t : Template} (h : t ∈ all) :
    Surface.parse t.surface.pretty = .ok t.surface :=
  parse_pretty_builtIn _ (List.mem_cons_of_mem _ (List.mem_map_of_mem h))

end SurfaceStudio.Template
