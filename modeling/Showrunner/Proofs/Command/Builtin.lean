import Mathlib.Data.List.Forall2
import Showrunner.Proofs.Command.Handlers
import Showrunner.Proofs.Pattern.Order
import Showrunner.Proofs.Pattern.Spelling

namespace Showrunner

/-- The built-in commands with their compiled patterns. -/
def builtinTokens : List (String × Handler × List Pattern.Token) := [
  ("echo", .echo, [.choice "echo" ["log"], .divider, .restText "rest"]),
  ("from", .useFolder, [.choice "from" ["using", "with"], .divider, .restText "rest"]),
  ("load", .load, [.choice "load" ["upload"], .divider, .required "filename", .flag "named",
    .flagBound "tag", .flag "split", .optional "cols", .optional "by", .optional "rows"]),
  ("unload", .unload, [.choice "unload" ["purge"], .divider, .restList "tags"]),
  ("play", .play, [.literal "play", .divider, .restList "tags"]),
  ("volume", .volume, [.flag "set", .choice "volume" ["vol"], .divider, .flag "of",
    .required "tag", .flag "to", .required "value"]),
  ("place", .place, [.literal "place", .divider, .required "itag", .flag "named",
    .flagBound "stag", .flag "at", .required "x", .required "y", .flag "depth", .flagBound "z",
    .choice "size" ["scale"], .optional "w", .optional "h"]),
  ("put", .put, [.literal "put", .divider, .required "itag", .flag "named", .flagBound "stag",
    .flag "as", .choice "background" ["top", "bottom", "left", "right", "ground", "sky"],
    .flag "depth", .flagBound "depth"]),
  ("window", .window, [.literal "window", .divider, .required "stag", .flag "at", .required "ix",
    .required "iy", .required "iw", .required "ih"]),
  ("zoom_window", .zoomWindow, [.literal "zoom", .literal "window", .divider, .required "tag",
    .flag "to", .required "iw", .required "ih", .flag "in", .restText "time"]),
  ("move_window", .moveWindow, [.literal "move", .literal "window", .divider, .flag "of",
    .required "tag", .flag "to", .required "ix", .required "iy", .flag "in", .restText "time"]),
  ("remove", .remove, [.choice "remove" ["erase"], .divider, .restList "tags"]),
  ("move", .move, [.literal "move", .divider, .required "tag", .choice "to" ["by"], .required "x",
    .required "y", .choice "in" ["at"], .restText "rest"]),
  ("speed", .speed, [.flag "set", .literal "speed", .flag "of", .divider, .required "tag",
    .flag "to", .required "speed", .flag "in", .restText "time"]),
  ("blur", .blur, [.flag "set", .literal "blur", .flag "of", .divider, .required "tag",
    .flag "to", .required "blur", .flag "in", .restText "time"]),
  ("size", .resize, [.choice "size" ["resize"], .divider, .required "tag", .flag "to",
    .required "width", .required "height", .flag "in", .restText "time"]),
  ("scale", .rescale, [.choice "scale" ["rescale"], .divider, .required "tag",
    .choice "by" ["to"], .required "xpct", .number "ypct", .flag "in", .restText "time"]),
  ("rotate", .rotate, [.choice "rotate" ["turn"], .divider, .required "tag", .choice "to" ["by"],
    .number "degrees", .flag "in", .restText "time"]),
  ("depth", .depth, [.flag "set", .choice "raise" ["lower", "depth"], .flag "of", .divider,
    .required "tag", .flag "depth", .choice "by" ["to"], .required "num"]),
  ("frame", .frame, [.choice "advance" ["reverse"], .divider, .required "tag",
    .choice "by" ["to"], .number "num", .flag "frames"]),
  ("rate", .rate, [.flag "set", .choice "frame" ["animation"], .literal "rate", .flag "of",
    .divider, .required "tag", .flag "to", .required "value", .flag "in", .restText "time"]),
  ("brightness", .brightness, [.flag "set", .choice "darken" ["darkness", "lightness", "lighten"],
    .flag "of", .divider, .required "tag", .flag "to", .required "value", .flag "in",
    .restText "time"]),
  ("transparency", .transparency, [.flag "set", .choice "trans" ["transparency"], .flag "of",
    .divider, .required "tag", .flag "to", .required "value", .flag "in", .restText "time"]),
  ("start", .start, [.choice "start" ["run"], .divider, .restList "list"]),
  ("stop", .stop, [.choice "stop" ["disable"], .divider, .restList "list"]),
  ("show", .visibility, [.choice "show" ["hide"], .divider, .required "tag", .flag "for",
    .restText "time"]),
  ("pause", .pause, [.choice "pause" ["freeze"], .divider, .restList "list"]),
  ("resume", .resume, [.choice "resume" ["unfreeze"], .divider, .restList "list"]),
  ("make", .assign, [.choice "make" ["let", "put"], .divider, .required "name", .flag "be",
    .flag "as", .flag "=", .restText "rest"]),
  ("create", .create, [.literal "create", .choice "group" ["text"], .divider,
    .required "item_name", .choice "from" ["size"], .restText "content"]),
  ("set_text", .setText, [.literal "set", .choice "content" ["text"], .flag "of", .divider,
    .required "text_item", .flag "to", .restText "rest"]),
  ("set_font", .setFont, [.literal "set", .literal "font", .divider, .required "feature",
    .flag "of", .required "text_item", .flag "to", .restText "rest"]),
  ("add_to_group", .addToGroup, [.literal "add", .flag "to", .literal "group", .divider,
    .required "group", .restList "list"]),
  ("dump", .dump, [.literal "dump", .divider, .restList "list"]),
  ("exit", .exit, [.choice "exit" ["quit"], .divider])]

def Compiles (e : CommandEntry) (t : String × Handler × List Pattern.Token) : Prop :=
  (Registry.compile e.id e.pattern e.handler e.help).toOption =
    some ⟨t.1, ⟨t.2.2, false, e.pattern⟩, t.2.1, e.help⟩

theorem compiles_of_spelled {e : CommandEntry} {s : List Char} {ts : List Pattern.Token}
    (hs : e.pattern.toList = s) (h : Pattern.Spec.spelled s = .ok ts) :
    Compiles e (e.id, e.handler, ts) := by
  unfold Compiles Registry.compile
  rw [Pattern.Spec.read_eq, hs, h]
  rfl

theorem builtin_compiles : List.Forall₂ Compiles builtinEntries builtinTokens := by
  unfold builtinEntries builtinTokens
  repeat first
    | exact .nil
    | refine .cons (compiles_of_spelled String.toList_ofList rfl) ?_

/-- The built-in commands with the patterns of the table, so that none has to be compiled. -/
def Registry.tabled : Registry :=
  ⟨List.zipWith (fun e t => ⟨t.1, ⟨t.2.2, false, e.pattern⟩, t.2.1, e.help⟩) builtinEntries
    builtinTokens⟩

theorem builtin_eq_tabled : Registry.builtin = Registry.tabled := by
  have h := builtin_compiles
  unfold Registry.builtin Registry.tabled
  generalize builtinEntries = entries, builtinTokens = table at h ⊢
  congr 1
  induction h with
  | nil => rfl
  | cons h _ ih =>
    unfold Compiles at h
    rw [List.filterMap_cons, h, List.zipWith_cons_cons, ih]

theorem builtin_tokens :
    Registry.builtin.commands.map
      (fun c => (c.id, c.handler, c.pattern.tokens, c.pattern.ignoreCase)) =
      builtinTokens.map fun e => (e.1, e.2.1, e.2.2, false) := by
  have h := builtin_compiles
  unfold Registry.builtin
  generalize builtinEntries = entries, builtinTokens = table at h ⊢
  induction h with
  | nil => rfl
  | cons h _ ih =>
    unfold Compiles at h
    simpa only [List.filterMap_cons, h, List.map_cons, List.cons_inj_right] using ih

theorem asksFirst_tag : ∀ e ∈ builtinTokens, ∀ name, e.2.1.leading? = some name →
    Pattern.asksFirst "tag" name e.2.2 := by
  have h : ∀ e ∈ builtinTokens, e.2.1.leading?.all fun name =>
      Pattern.asksFirst "tag" name e.2.2 := by
    decide +kernel
  intro e he name hn
  simpa [hn] using h e he

theorem Registry.mem_of_find? {r : Registry} {words : List String} {c : Command}
    {found : Pattern.Match} (h : r.find? words = some (c, found)) :
    c ∈ r.commands ∧ c.pattern.matchWords? words = some found := by
  obtain ⟨d, hd, hm⟩ := List.exists_of_findSome?_eq_some h
  obtain ⟨m, hw, he⟩ := Option.map_eq_some_iff.mp hm
  cases he
  exact ⟨hd, hw⟩

theorem Registry.isEmpty_of_find? {r : Registry} {words : List String} {c : Command}
    {found : Pattern.Match} (h : r.find? words = some (c, found)) : words.isEmpty = false := by
  obtain ⟨_, hm⟩ := mem_of_find? h
  cases hw : words.isEmpty with
  | false => rfl
  | true => simp [Pattern.Spec.matchWords?_eq, hw] at hm

theorem tagged_of_find? {words : List String} {c : Command} {found : Pattern.Match}
    (h : Registry.builtin.find? words = some (c, found)) (scene : String) :
    c.handler.Tagged ⟨scene, found⟩ := by
  obtain ⟨hc, hm⟩ := Registry.mem_of_find? h
  have ht : (c.id, c.handler, c.pattern.tokens) ∈ builtinTokens := by
    have hm := List.mem_map_of_mem (f := fun c : Command =>
      (c.id, c.handler, c.pattern.tokens, c.pattern.ignoreCase)) hc
    rw [builtin_tokens] at hm
    obtain ⟨e, he, hce⟩ := List.mem_map.mp hm
    obtain ⟨hi, hh, ht, _⟩ : e.1 = c.id ∧ e.2.1 = c.handler ∧ e.2.2 = c.pattern.tokens ∧ _ := by
      simpa only [Prod.mk.injEq] using hce
    rw [← hi, ← hh, ← ht]
    exact he
  intro name hn
  exact Pattern.text?_of_asksFirst (asksFirst_tag _ ht name hn) hm

/-- Lines are matched as the table tells. -/
theorem builtin_find? (words : List String) :
    (Registry.builtin.find? words).map (fun r => (r.1.id, r.1.handler, r.2)) =
      builtinTokens.findSome? fun e =>
        (Pattern.Spec.matchWords? ⟨e.2.2, false, ""⟩ words).map fun m => (e.1, e.2.1, m) := by
  let read := fun e : String × Handler × List Pattern.Token × Bool =>
    (Pattern.Spec.matchWords? ⟨e.2.2.1, e.2.2.2, ""⟩ words).map fun m => (e.1, e.2.1, m)
  have hl : (Registry.builtin.find? words).map (fun r => (r.1.id, r.1.handler, r.2)) =
      (Registry.builtin.commands.map fun c =>
        (c.id, c.handler, c.pattern.tokens, c.pattern.ignoreCase)).findSome? read := by
    unfold Registry.find?
    rw [List.map_findSome?, List.findSome?_map]
    congr 1
    funext c
    exact Option.map_map ..
  rw [hl, builtin_tokens, List.findSome?_map]
  rfl

theorem find?_of_table {words : List String} {id : String} {handler : Handler}
    {found : Pattern.Match}
    (h : (builtinTokens.findSome? fun e =>
      (Pattern.Spec.matchWords? ⟨e.2.2, false, ""⟩ words).map fun m => (e.1, e.2.1, m)) =
        some (id, handler, found)) :
    ∃ c, Registry.builtin.find? words = some (c, found) ∧ c.handler = handler := by
  rw [← builtin_find?] at h
  obtain ⟨⟨c, _⟩, hf, he⟩ := Option.map_eq_some_iff.mp h
  cases he
  exact ⟨c, hf, rfl⟩

theorem exists_find? (words : List String) (p : Handler → Pattern.Match → Prop)
    [∀ handler found, Decidable (p handler found)]
    (h : (builtinTokens.findSome? fun e =>
      (Pattern.Spec.matchWords? ⟨e.2.2, false, ""⟩ words).map fun m => (e.1, e.2.1, m)).any
        fun r => p r.2.1 r.2.2) :
    ∃ c found, Registry.builtin.find? words = some (c, found) ∧ p c.handler found := by
  rw [← builtin_find?] at h
  obtain ⟨r, hr, hp⟩ := (Option.any_eq_true _ _).mp h
  obtain ⟨⟨c, found⟩, hf, rfl⟩ := Option.map_eq_some_iff.mp hr
  exact ⟨c, found, hf, of_decide_eq_true hp⟩

end Showrunner
