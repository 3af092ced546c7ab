import TagHighlight.Proofs.Report
import TagHighlight.Proofs.Traversal
import TagHighlight.Theme.Basic

/-!
# Which items are a theme

`IsTheme items` says of items what they are when they make a theme: each key names a category, each
value is a color or an object of the parts of a style, and some key names plain text. That speaks of
the items without an order. The reader goes from the first item on and checks the key of an item before
its value, and the names of the members before the color. It reads exactly such items; otherwise it
tells what is wrong with the first item that is not of the shape (`ThemeError.IsOf`), or that plain
text has no style. It tells so by the kind of failure that themes have, unless the first item that is
not of the shape has a key that is no text and holds an integer that cannot be written.

Categories can be named more than once, in other capitals. The style of the last item stays
(`style_of_last`).
-/

namespace TagHighlight

/-! ### Shapes -/

/-- The key is a text whose uppercase form is the name of the category. -/
def Names (key : Json) (c : Category) : Prop :=
  ∃ s : LooseText, key = .str s ∧ s.upper = c.name

/-- The value gives a style: it is a color, or an object that has only parts of a style and among them
a color. -/
inductive GivesStyle : Json → Style → Prop
  | color (color : Color) : GivesStyle (.str color.text) { color }
  | parts {members : List (LooseText × Json)} {color : Color}
    (hnames : ∀ m ∈ members, m.1 ∈ Style.memberNames)
    (hcolor : (Json.obj members).get? "color" = some (.str color.text)) :
    GivesStyle (.obj members)
      { color
        italic := ((Json.obj members).get? "italic").getD (.bool false)
        bold := ((Json.obj members).get? "bold").getD (.bool false) }

structure IsThemeItem (item : Json × Json) : Prop where
  key : ∃ c, Names item.1 c
  value : ∃ style, GivesStyle item.2 style

def IsTheme (items : List (Json × Json)) : Prop :=
  (∀ item ∈ items, IsThemeItem item) ∧ ∃ item ∈ items, Names item.1 .plain

theorem Names.unique {key : Json} {c d : Category} (hc : Names key c) (hd : Names key d) : c = d := by
  obtain ⟨s, rfl, hs⟩ := hc
  obtain ⟨t, ht, hname⟩ := hd
  cases ht
  have hcd := Category.ofName?_eq_some_iff.2 (hs.symm.trans hname)
  exact Option.some.inj (c.ofName?_name.symm.trans hcd)

theorem names_str_iff {s : LooseText} {c : Category} :
    Names (.str s) c ↔ Category.ofName? s.upper = some c := by
  rw [Category.ofName?_eq_some_iff]
  constructor
  · rintro ⟨t, ht, hname⟩
    cases ht
    exact hname
  · exact fun h => ⟨s, rfl, h⟩

/-! ### What is wrong with an item -/

def IsNoColor (s : LooseText) : Prop := ∀ w : String, s = w → isColor w.toList = false

inductive StyleError.IsOf (members : List (LooseText × Json)) : StyleError → Prop
  | selfMember {before after : List (LooseText × Json)} {m : LooseText × Json}
    (hmembers : members = before ++ m :: after)
    (hbefore : ∀ l ∈ before, l.1 ∈ Style.memberNames) (hself : m.1 = "self") :
    IsOf members .selfMember
  | unexpectedMember {before after : List (LooseText × Json)} {m : LooseText × Json}
    (hmembers : members = before ++ m :: after)
    (hbefore : ∀ l ∈ before, l.1 ∈ Style.memberNames)
    (hname : m.1 ∉ Style.memberNames) (hself : m.1 ≠ "self") :
    IsOf members (.unexpectedMember m.1)
  | missingColor (hnames : ∀ m ∈ members, m.1 ∈ Style.memberNames)
    (hcolor : (Json.obj members).get? "color" = none) : IsOf members .missingColor
  | colorNotText {v : Json} (hnames : ∀ m ∈ members, m.1 ∈ Style.memberNames)
    (hcolor : (Json.obj members).get? "color" = some v) (htext : ∀ s, v ≠ .str s) :
    IsOf members (.colorNotText v)
  | badColor {s : LooseText} (hnames : ∀ m ∈ members, m.1 ∈ Style.memberNames)
    (hcolor : (Json.obj members).get? "color" = some (.str s))
    (hbad : IsNoColor s) : IsOf members (.badColor s)

inductive ThemeError.IsOf (theme : LooseText) : Json × Json → ThemeError → Prop
  | keyNotText {key value : Json} (hkey : ∀ s, key ≠ .str s) :
    IsOf theme (key, value) (.keyNotText theme key)
  | unknownCategory {s : LooseText} {value : Json} (hkey : ∀ c, ¬Names (.str s) c) :
    IsOf theme (.str s, value) (.unknownCategory theme s)
  | badColor {s t : LooseText} {c : Category} (hkey : Names (.str s) c)
    (hbad : IsNoColor t) : IsOf theme (.str s, .str t) (.badColor t)
  | ofStyle {s : LooseText} {members : List (LooseText × Json)} {c : Category} {cause : StyleError}
    (hkey : Names (.str s) c) (hcause : cause.IsOf members) :
    IsOf theme (.str s, .obj members) (.ofStyle theme s cause)
  | notAStyle {s : LooseText} {value : Json} {c : Category} (hkey : Names (.str s) c)
    (htext : ∀ t, value ≠ .str t) (hobject : ∀ members, value ≠ .obj members) :
    IsOf theme (.str s, value) (.notAStyle theme s)

/-! ### Styles -/

theorem Color.ofText?_eq_some_iff {s : LooseText} {color : Color} :
    ofText? s = some color ↔ s = color.text := by
  unfold ofText?
  constructor
  · intro h
    split at h
    · cases h
    · rename_i w hw
      rw [LooseText.toString?_eq_ok_iff] at hw
      split at h
      · cases h
        exact hw
      · cases h
  · rintro rfl
    rw [LooseText.toString?_eq_ok_iff.2 rfl]
    exact dif_pos color.isColor_text

theorem Color.isNoColor_of_ofText?_eq_none {s : LooseText} (h : ofText? s = none) :
    IsNoColor s := by
  rintro w rfl
  by_contra hcolor
  rw [Bool.not_eq_false] at hcolor
  rw [ofText?_eq_some_iff.2 (show LooseText.ofString w = (Color.mk w hcolor).text from rfl)] at h
  cases h

theorem Style.make?_str_eq_ok_iff {s : LooseText} {italic bold : Json} {style : Style} :
    make? (.str s) italic bold = .ok style ↔
      ∃ color : Color, s = color.text ∧ style = ⟨color, italic, bold⟩ := by
  simp only [make?]
  split
  · rename_i color hcolor
    have htext := Color.ofText?_eq_some_iff.1 hcolor
    constructor
    · intro h
      exact ⟨color, htext, (Except.ok.inj h).symm⟩
    · rintro ⟨other, hother, rfl⟩
      rw [← Color.ofText?_eq_some_iff, hcolor] at hother
      rw [Option.some.inj hother]
  · rename_i hnone
    refine iff_of_false nofun ?_
    rintro ⟨other, hother, -⟩
    rw [← Color.ofText?_eq_some_iff, hnone] at hother
    cases hother

theorem Style.make?_str_eq_error {s : LooseText} {italic bold : Json} {e : StyleError}
    (h : make? (.str s) italic bold = .error e) : e = .badColor s ∧ IsNoColor s := by
  simp only [make?] at h
  split at h
  · cases h
  · rename_i hbad
    cases h
    exact ⟨rfl, Color.isNoColor_of_ofText?_eq_none hbad⟩

theorem Style.nameError?_eq_none_iff {name : LooseText} : nameError? name = none ↔ name ∈ memberNames := by
  unfold nameError?
  split
  · rename_i h
    exact iff_of_true rfl (List.contains_iff_mem.1 h)
  · rename_i h
    rw [List.contains_iff_mem] at h
    refine iff_of_false ?_ h
    split <;> exact nofun

theorem Style.findSome?_nameError?_eq_none_iff {members : List (LooseText × Json)} :
    (members.findSome? fun m => nameError? m.1) = none ↔
      ∀ m ∈ members, m.1 ∈ memberNames := by
  simp only [List.findSome?_eq_none_iff, nameError?_eq_none_iff]

theorem Style.ofMembers?_eq_ok_iff {members : List (LooseText × Json)} {style : Style} :
    ofMembers? members = .ok style ↔ GivesStyle (.obj members) style := by
  unfold ofMembers?
  split
  · rename_i e hfound
    refine iff_of_false nofun fun h => ?_
    cases h with
    | parts hnames =>
      rw [findSome?_nameError?_eq_none_iff.2 hnames] at hfound
      cases hfound
  · rename_i hnone
    have hnames := findSome?_nameError?_eq_none_iff.1 hnone
    dsimp only
    constructor
    · intro h
      split at h
      · cases h
      · rename_i v hcolor
        cases v with
        | str s =>
          obtain ⟨color, rfl, rfl⟩ := make?_str_eq_ok_iff.1 h
          exact .parts hnames hcolor
        | null | bool _ | int _ | real _ | arr _ | obj _ => cases h
    · intro h
      cases h with
      | parts _ hcolor =>
        rw [hcolor]
        exact make?_str_eq_ok_iff.2 ⟨_, rfl, rfl⟩

theorem Style.isOf_of_ofMembers? {members : List (LooseText × Json)} {e : StyleError}
    (h : ofMembers? members = .error e) : e.IsOf members := by
  unfold ofMembers? at h
  split at h
  · rename_i e' hfound
    cases h
    obtain ⟨before, m, after, hmembers, hm, hbefore⟩ := List.findSome?_eq_some_iff.1 hfound
    have hnames : ∀ l ∈ before, l.1 ∈ memberNames :=
      fun l hl => nameError?_eq_none_iff.1 (hbefore l hl)
    have hname : m.1 ∉ memberNames := by
      rw [← nameError?_eq_none_iff, hm]
      exact nofun
    rw [nameError?, if_neg (by rwa [List.contains_iff_mem])] at hm
    split at hm
    · rename_i hself
      cases hm
      exact .selfMember hmembers hnames hself
    · rename_i hself
      cases hm
      exact .unexpectedMember hmembers hnames hname hself
  · rename_i hnone
    have hnames := findSome?_nameError?_eq_none_iff.1 hnone
    dsimp only at h
    split at h
    · rename_i hcolor
      cases h
      exact .missingColor hnames hcolor
    · rename_i v hcolor
      cases v with
      | str s =>
        obtain ⟨rfl, hbad⟩ := make?_str_eq_error h
        exact .badColor hnames hcolor hbad
      | null | bool _ | int _ | real _ | arr _ | obj _ =>
        cases h
        exact .colorNotText hnames hcolor nofun

theorem givesStyle_str_iff {s : LooseText} {style : Style} :
    GivesStyle (.str s) style ↔ Style.make? (.str s) (.bool false) (.bool false) = .ok style := by
  rw [Style.make?_str_eq_ok_iff]
  constructor
  · intro h
    cases h with
    | color color => exact ⟨color, rfl, rfl⟩
  · rintro ⟨color, rfl, rfl⟩
    exact .color color

/-! ### Items -/

section

variable {ε ε' α β : Type} {read : Except ε α} {f : α → β} {g : ε → ε'}

theorem mapError_map_eq_ok_iff {b : β} :
    (read.map f).mapError g = .ok b ↔ ∃ a, read = .ok a ∧ f a = b := by
  cases read with
  | ok a =>
    refine ⟨fun h => ⟨a, rfl, Except.ok.inj h⟩, ?_⟩
    rintro ⟨a', ha, rfl⟩
    cases ha
    rfl
  | error e =>
    refine iff_of_false nofun ?_
    rintro ⟨a, ha, -⟩
    cases ha

theorem mapError_map_eq_error {e : ε'} (h : (read.map f).mapError g = .error e) :
    ∃ cause, read = .error cause ∧ g cause = e := by
  cases read with
  | ok a => cases h
  | error cause => exact ⟨cause, rfl, Except.error.inj h⟩

end

section

variable {theme : LooseText} {item : Json × Json} {c : Category} {style : Style}

theorem themeItem?_eq_ok_iff :
    themeItem? theme item = .ok (c, style) ↔ Names item.1 c ∧ GivesStyle item.2 style := by
  obtain ⟨key, value⟩ := item
  unfold themeItem?
  cases key with
  | str s =>
    rw [names_str_iff]
    dsimp only
    cases hcategory : Category.ofName? (s.upper) with
    | none => exact iff_of_false nofun fun h => nomatch h.1
    | some category =>
      rw [Option.some_inj]
      cases value with
      | str t =>
        rw [givesStyle_str_iff]
        dsimp only
        rw [mapError_map_eq_ok_iff]
        simp [and_comm]
      | obj members =>
        rw [← Style.ofMembers?_eq_ok_iff]
        dsimp only
        rw [mapError_map_eq_ok_iff]
        simp [and_comm]
      | null | bool _ | int _ | real _ | arr _ => exact iff_of_false nofun fun h => nomatch h.2
  | null | bool _ | int _ | real _ | arr _ | obj _ =>
    refine iff_of_false nofun ?_
    rintro ⟨⟨s, hs, _⟩, _⟩
    cases hs

theorem exists_themeItem?_iff : (∃ read, themeItem? theme item = .ok read) ↔ IsThemeItem item := by
  constructor
  · rintro ⟨⟨c, style⟩, h⟩
    obtain ⟨hkey, hvalue⟩ := themeItem?_eq_ok_iff.1 h
    exact ⟨⟨c, hkey⟩, ⟨style, hvalue⟩⟩
  · rintro ⟨⟨c, hkey⟩, ⟨style, hvalue⟩⟩
    exact ⟨(c, style), themeItem?_eq_ok_iff.2 ⟨hkey, hvalue⟩⟩

theorem ThemeError.isOf_of_themeItem? {e : ThemeError} (h : themeItem? theme item = .error e) :
    e.IsOf theme item := by
  obtain ⟨key, value⟩ := item
  unfold themeItem? at h
  split at h
  · rename_i s hkey
    subst hkey
    dsimp only at h
    cases hcategory : Category.ofName? (s.upper) with
    | none =>
      rw [hcategory] at h
      cases h
      refine .unknownCategory fun c hc => ?_
      rw [names_str_iff, hcategory] at hc
      cases hc
    | some category =>
      rw [hcategory] at h
      have hnames := names_str_iff.2 hcategory
      dsimp only at h
      split at h
      · rename_i t
        obtain ⟨cause, hcause, rfl⟩ := mapError_map_eq_error h
        obtain ⟨rfl, hbad⟩ := Style.make?_str_eq_error hcause
        exact .badColor hnames hbad
      · rename_i members
        obtain ⟨cause, hcause, rfl⟩ := mapError_map_eq_error h
        exact .ofStyle hnames (Style.isOf_of_ofMembers? hcause)
      · rename_i htext hobject
        cases h
        exact .notAStyle hnames htext hobject
  · rename_i hkey
    cases h
    exact .keyNotText hkey

end

/-! ### The last item counts -/

theorem foldl_addStyle_of_notMem {c : Category} {read : List (Category × Style)}
    (h : ∀ p ∈ read, p.1 ≠ c) (styles : Category → Option Style) :
    read.foldl addStyle styles c = styles c := by
  induction read generalizing styles with
  | nil => rfl
  | cons p read ih =>
    rw [List.foldl_cons, ih fun q hq => h q (List.mem_cons_of_mem p hq), addStyle,
      if_neg (h p List.mem_cons_self).symm]

section

variable {theme : LooseText} {items : List (Json × Json)} {read : List (Category × Style)}

theorem foldl_addStyle_of_not_names {c : Category}
    (h : List.Forall₂ (fun item p => themeItem? theme item = .ok p) items read)
    (hnone : ∀ item ∈ items, ¬Names item.1 c) (styles : Category → Option Style) :
    read.foldl addStyle styles c = styles c := by
  refine foldl_addStyle_of_notMem (fun p hp hc => ?_) styles
  obtain ⟨item, hitem, hread⟩ := exists_of_mem_mapM (mapM_eq_ok_iff.2 h) hp
  exact hnone item hitem (hc ▸ (themeItem?_eq_ok_iff.1 hread).1)

/-- The style of a category is the one that the last item gives that names it. -/
theorem style_of_last {c : Category} {before after : List (Json × Json)} {item : Json × Json}
    (h : List.Forall₂ (fun item p => themeItem? theme item = .ok p) (before ++ item :: after) read)
    (hc : Names item.1 c) (hafter : ∀ other ∈ after, ¬Names other.1 c)
    (styles : Category → Option Style) :
    ∃ style, GivesStyle item.2 style ∧ read.foldl addStyle styles c = some style := by
  induction before generalizing read styles with
  | nil =>
    obtain ⟨⟨d, style⟩, rest, hitem, hrest, rfl⟩ := List.forall₂_cons_left_iff.1 h
    obtain ⟨hd, hstyle⟩ := themeItem?_eq_ok_iff.1 hitem
    obtain rfl := hc.unique hd
    refine ⟨style, hstyle, ?_⟩
    rw [List.foldl_cons, foldl_addStyle_of_not_names hrest hafter, addStyle, if_pos rfl]
  | cons first before ih =>
    obtain ⟨p, rest, -, hrest, rfl⟩ := List.forall₂_cons_left_iff.1 h
    exact ih hrest (addStyle styles p)

theorem exists_last_names {c : Category} (h : ∃ item ∈ items, Names item.1 c) :
    ∃ before item after, items = before ++ item :: after ∧ Names item.1 c ∧
      ∀ other ∈ after, ¬Names other.1 c := by
  induction items with
  | nil =>
    obtain ⟨item, hitem, -⟩ := h
    cases hitem
  | cons first items ih =>
    by_cases hrest : ∃ item ∈ items, Names item.1 c
    · obtain ⟨before, item, after, rfl, hitem, hafter⟩ := ih hrest
      exact ⟨first :: before, item, after, rfl, hitem, hafter⟩
    · obtain ⟨item, hitem, hc⟩ := h
      rcases List.mem_cons.1 hitem with rfl | hmem
      · exact ⟨[], item, items, rfl, hc, fun other hother hn => hrest ⟨other, hother, hn⟩⟩
      · exact absurd ⟨item, hmem, hc⟩ hrest

end

/-! ### Themes -/

/-- The theme covers the categories that are named, and has the styles of the last items naming them. -/
structure Theme.IsOf (theme : Theme) (items : List (Json × Json)) : Prop where
  covers_iff : ∀ c, theme.covers c = true ↔ ∃ item ∈ items, Names item.1 c
  style_of_last : ∀ before item after c, items = before ++ item :: after → Names item.1 c →
    (∀ other ∈ after, ¬Names other.1 c) → GivesStyle item.2 (theme.style c)
  style_of_none : ∀ c, (∀ item ∈ items, ¬Names item.1 c) → theme.style c = theme.style .plain

/-- What is wrong first with items that are no theme. -/
inductive ThemeError.IsFirstOf (theme : LooseText) (items : List (Json × Json)) : ThemeError → Prop
  | item {before after : List (Json × Json)} {item : Json × Json} {e : ThemeError}
    (hitems : items = before ++ item :: after) (hbefore : ∀ other ∈ before, IsThemeItem other)
    (hitem : ¬IsThemeItem item) (he : e.IsOf theme item) : IsFirstOf theme items e
  | noPlain (hitems : ∀ item ∈ items, IsThemeItem item)
    (hplain : ∀ item ∈ items, ¬Names item.1 .plain) : IsFirstOf theme items (.noPlain theme)

theorem Theme.ofStyles?_of_eq_some {name : LooseText} {styles : Category → Option Style} {plain : Style}
    (h : styles .plain = some plain) : ofStyles? name styles = .ok ⟨name, styles, plain, h⟩ := by
  unfold ofStyles?
  split
  · rename_i hnone
    rw [hnone] at h
    cases h
  · rename_i other hother
    obtain rfl := Option.some.inj (hother.symm.trans h)
    rfl

theorem Theme.ofStyles?_of_eq_none {name : LooseText} {styles : Category → Option Style}
    (h : styles .plain = none) : ofStyles? name styles = .error (.noPlain name) := by
  unfold ofStyles?
  split
  · rfl
  · rename_i other hother
    rw [hother] at h
    cases h

section

variable {theme : LooseText} {items : List (Json × Json)}

theorem Theme.isOf_of_styles {made : Theme} {read : List (Category × Style)}
    (h : List.Forall₂ (fun item p => themeItem? theme item = .ok p) items read)
    (hmade : made.styles = read.foldl addStyle fun _ => none) : made.IsOf items where
  covers_iff c := by
    rw [covers, hmade]
    constructor
    · intro hcovers
      by_contra hnone
      push Not at hnone
      rw [foldl_addStyle_of_not_names h hnone] at hcovers
      cases hcovers
    · intro hnamed
      obtain ⟨before, item, after, rfl, hc, hafter⟩ := exists_last_names hnamed
      obtain ⟨style, -, hstyle⟩ := TagHighlight.style_of_last h hc hafter fun _ => none
      rw [hstyle, Option.isSome_some]
  style_of_last := by
    rintro before item after c rfl hc hafter
    obtain ⟨style, hgives, hstyle⟩ := TagHighlight.style_of_last h hc hafter fun _ => none
    rwa [Theme.style, hmade, hstyle, Option.getD_some]
  style_of_none c hnone := by
    rw [Theme.style, Theme.style, made.styles_plain, hmade, foldl_addStyle_of_not_names h hnone,
      Option.getD_none, Option.getD_some]

theorem exists_ofItems?_eq_ok (h : IsTheme items) :
    ∃ made, Theme.ofItems? theme items = .ok made ∧ made.name = theme ∧ made.IsOf items := by
  obtain ⟨hitems, hnamed⟩ := h
  obtain ⟨read, hread⟩ : ∃ read, items.mapM (themeItem? theme) = .ok read :=
    exists_mapM_eq_ok fun item hitem => exists_themeItem?_iff.2 (hitems item hitem)
  have hall := mapM_eq_ok_iff.1 hread
  obtain ⟨before, item, after, rfl, hc, hafter⟩ := exists_last_names hnamed
  obtain ⟨plain, -, hplain⟩ := style_of_last hall hc hafter fun _ => none
  refine ⟨⟨theme, _, plain, hplain⟩, ?_, rfl, Theme.isOf_of_styles hall rfl⟩
  rw [Theme.ofItems?, hread]
  exact Theme.ofStyles?_of_eq_some hplain

theorem exists_ofItems?_eq_error (h : ¬IsTheme items) :
    ∃ e : ThemeError, Theme.ofItems? theme items = .error e ∧ e.IsFirstOf theme items := by
  rw [Theme.ofItems?]
  cases hread : items.mapM (themeItem? theme) with
  | error e =>
    obtain ⟨before, item, after, hitems, hbefore, hitem⟩ := exists_of_mapM_eq_error hread
    refine ⟨e, rfl, .item hitems (fun other hother => ?_) ?_ (ThemeError.isOf_of_themeItem? hitem)⟩
    · exact exists_themeItem?_iff.1 (hbefore other hother)
    · intro hshape
      obtain ⟨p, hp⟩ := exists_themeItem?_iff.2 hshape
      rw [hitem] at hp
      cases hp
  | ok read =>
    have hall := mapM_eq_ok_iff.1 hread
    have hitems : ∀ item ∈ items, IsThemeItem item := fun item hitem =>
      exists_themeItem?_iff.1 (exists_eq_ok_of_mapM_eq_ok hread item hitem)
    have hplain : ∀ item ∈ items, ¬Names item.1 .plain :=
      fun item hitem hc => h ⟨hitems, item, hitem, hc⟩
    exact ⟨_, Theme.ofStyles?_of_eq_none (foldl_addStyle_of_not_names hall hplain _),
      .noPlain hitems hplain⟩

end

/-! ### The kind of failure -/

/-- The integers that the message shows. -/
def ThemeError.shown : ThemeError → List Int
  | keyNotText _ key => key.integers
  | _ => []

theorem ThemeError.exists_message_iff {e : ThemeError} :
    (∃ text, e.message = .ok text) ↔ ∀ n ∈ e.shown, IsWritable n := by
  cases e with
  | keyNotText theme key => exact Json.exists_display_bind_iff
  | unknownCategory _ _ | badStyle _ _ _ | badColor _ | notAStyle _ _ | noPlain _ =>
    exact iff_of_true ⟨_, rfl⟩ fun n hn => absurd hn List.not_mem_nil

theorem ThemeError.kind_raised_iff {e : ThemeError} :
    e.raised.kind = .theme ↔ ∀ n ∈ e.shown, IsWritable n := by
  rw [← exists_message_iff]
  exact Raised.kind_of_eq_iff (by decide)

theorem ThemeError.IsFirstOf.exists_key {e : ThemeError} (h : e.IsFirstOf theme items) {n : Int}
    (hn : n ∈ e.shown) : ∃ item ∈ items, n ∈ item.1.integers := by
  cases h with
  | noPlain => exact absurd hn List.not_mem_nil
  | item hitems _ _ he =>
    refine ⟨_, hitems ▸ List.mem_append_right _ List.mem_cons_self, ?_⟩
    cases he with
    | keyNotText _ => exact hn
    | ofStyle _ hcause => cases hcause <;> exact absurd hn List.not_mem_nil
    | unknownCategory _ | badColor _ _ | notAStyle _ _ _ => exact absurd hn List.not_mem_nil

/-- **Items are read as a theme exactly when they are one.** Otherwise the first thing that is wrong is
refused, and in the way of themes exactly when the integers that are to be shown can be written. That
is so when the keys hold no others. -/
theorem Theme.reads_themes_and_refuses_all_else (name : LooseText) (items : List (Json × Json)) :
    (IsTheme items →
      ∃ theme, ofItems? name items = .ok theme ∧ theme.name = name ∧ theme.IsOf items) ∧
    (¬IsTheme items →
      ∃ e : ThemeError, ofItems? name items = .error e ∧ e.IsFirstOf name items ∧
        (e.raised.kind = .theme ↔ ∀ n ∈ e.shown, IsWritable n) ∧
        (e.raised.kind = .theme ∨ e.raised.kind = .wrongValue) ∧
        ((∀ item ∈ items, ∀ n ∈ item.1.integers, IsWritable n) → e.raised.kind = .theme)) := by
  refine ⟨exists_ofItems?_eq_ok, fun h => ?_⟩
  obtain ⟨e, he, hfirst⟩ := exists_ofItems?_eq_error h
  refine ⟨e, he, hfirst, ThemeError.kind_raised_iff, Raised.kind_of_eq_or _ _, fun hkeys => ?_⟩
  refine ThemeError.kind_raised_iff.2 fun n hn => ?_
  obtain ⟨item, hitem, hkey⟩ := hfirst.exists_key hn
  exact hkeys item hitem n hkey

/-- A key that is an integer of 4301 digits is refused, but not in the way of themes. -/
theorem Theme.oversized_key_is_passed_on :
    let items := [(Json.int (10 ^ digitLimit), Json.str "#fff")]
    ¬IsTheme items ∧
      ∃ e : ThemeError, ofItems? "t" items = .error e ∧ e.raised.kind = .wrongValue := by
  intro items
  refine ⟨fun h => ?_, .keyNotText "t" (.int (10 ^ digitLimit)), rfl, ?_⟩
  · obtain ⟨⟨c, s, hs, -⟩, -⟩ := h.1 _ List.mem_cons_self
    cases hs
  · refine (Raised.kind_of_eq_or _ _).resolve_left fun htheme => not_isWritable_pow ?_
    exact ThemeError.kind_raised_iff.1 htheme _ (by simp [ThemeError.shown, Json.integers])

end TagHighlight
