import Mathlib.Data.List.TakeWhile
import SubtitleCoverage.Http.Client

/-!
# What a client asks its server for

Everything that a client asks for is found under one address.  What follows that address in a text
decides about the path and the query, but neither about the server that is named nor about whether
the text is an address at all.

## Main definitions

* `Address.server` — the server that an address names.
* `Address.serverPart` — the characters of an address that name the server.

## Main results

* `Address.map_server_ofText?` — how the server is read off a text.
* `Address.map_server_append` — **what follows the address of a client does not change the server**.
* `method_of_prepare?` — a request does what is wished for.
* `isSome_request?` — a client can send every call, or none.
-/

namespace SubtitleCoverage.Http

open Text

/-! ### Up to the first character that stops -/

section

variable {α : Type} {p : α → Bool} {a : α}

/-- What is taken does not depend on what follows something that stops it. -/
theorem takeWhile_append_stop (ha : p a = false) (l l' : List α) :
    (l ++ a :: l').takeWhile p = l.takeWhile p := by
  induction l with
  | nil => rw [List.nil_append, List.takeWhile_cons, ha, List.takeWhile_nil]; rfl
  | cons b l ih => rw [List.cons_append, List.takeWhile_cons, List.takeWhile_cons, ih]

/-- What follows something that stops it is never dropped. -/
theorem dropWhile_append_stop (ha : p a = false) (l l' : List α) :
    (l ++ a :: l').dropWhile p = l.dropWhile p ++ a :: l' := by
  induction l with
  | nil => rw [List.nil_append, List.dropWhile_cons, ha, List.dropWhile_nil]; rfl
  | cons b l ih =>
    rw [List.cons_append, List.dropWhile_cons, List.dropWhile_cons, ih]
    split <;> rfl

end

/-! ### Servers -/

namespace Address

/-- The server that an address names. -/
def server (a : Address) : Scheme × String × Nat := (a.scheme, a.host, a.port)

/-- The characters of an address that name the server, with a user and a port if they are given. -/
def serverPart (cs : List Char) : List Char :=
  (((cs.dropWhile (· ≠ ':')).drop 1).dropWhile isSlash).takeWhile fun c => !endsServer c

/-- How the server is read off a text. -/
theorem map_server_ofText? (s : String) :
    (ofText? s).map server =
      (Scheme.ofName? (String.ofList ((cleaned s).takeWhile (· ≠ ':')))).bind fun scheme =>
        (hostName? (splitHost (afterUser (serverPart (cleaned s)))).1).bind fun host =>
          (port? scheme (splitHost (afterUser (serverPart (cleaned s)))).2).map fun port =>
            (scheme, host, port) := by
  rw [ofText?, serverPart]
  cases Scheme.ofName? (String.ofList ((cleaned s).takeWhile (· ≠ ':'))) with
  | none => rfl
  | some scheme =>
    simp only [Option.bind_eq_bind, Option.bind_some]
    generalize splitHost _ = parts
    cases hostName? parts.1 with
    | none => rfl
    | some host => cases port? scheme parts.2 <;> rfl

/-- No protocol has a slash in its name. -/
theorem ofName?_eq_none {s : String} (h : '/' ∈ s.toList) : Scheme.ofName? s = none := by
  have hlower : '/' ∈ s.toLower.toList := by
    show '/' ∈ (s.map Char.toLower).toList
    rw [String.toList_map]
    exact List.mem_map.2 ⟨'/', h, by decide⟩
  unfold Scheme.ofName?
  split
  · next hname =>
    rw [hname] at hlower
    exact absurd hlower (by decide)
  · next hname =>
    rw [hname] at hlower
    exact absurd hlower (by decide)
  · rfl

/-- The characters that count, if the address of a client comes first. -/
theorem exists_cleaned_append (base path : String) :
    ∃ tail, cleaned (base ++ "/api" ++ ("/" ++ path)) =
      ((base ++ "/ap").toList.dropWhile isOuter).filter (fun c => !isDropped c) ++
        'i' :: '/' :: tail := by
  have htext : (base ++ "/api" ++ ("/" ++ path)).toList =
      (base ++ "/ap").toList ++ 'i' :: '/' :: path.toList := by
    simp [String.toList_append]
  -- neither end is cut off beyond the letter and the slash in the middle
  have hback (front : List Char) : (front ++ 'i' :: '/' :: path.toList).reverse =
      path.toList.reverse ++ '/' :: 'i' :: front.reverse := by
    simp
  have hfront (front tail : List Char) : (tail ++ '/' :: 'i' :: front.reverse).reverse =
      front ++ 'i' :: '/' :: tail.reverse := by
    simp
  rw [cleaned, htext, dropWhile_append_stop (by decide), hback, dropWhile_append_stop (by decide),
    hfront, List.filter_append]
  exact ⟨_, rfl⟩

/-- The protocol stands before the first colon, and the server between that and the next slash. -/
theorem parts_of_colon {name after : List Char} (hname : ':' ∉ name) (tail : List Char) :
    ((name ++ ':' :: after) ++ 'i' :: '/' :: tail).takeWhile (· ≠ ':') = name.takeWhile (· ≠ ':') ∧
    serverPart ((name ++ ':' :: after) ++ 'i' :: '/' :: tail) =
      (after.dropWhile isSlash ++ ['i']).takeWhile fun c => !endsServer c := by
  have hcolon : (name ++ ':' :: after) ++ 'i' :: '/' :: tail =
      name ++ ':' :: (after ++ 'i' :: '/' :: tail) := by
    simp
  have hslash : after.dropWhile isSlash ++ 'i' :: '/' :: tail =
      (after.dropWhile isSlash ++ ['i']) ++ '/' :: tail := by
    simp
  have hnone : name.dropWhile (· ≠ ':') = [] :=
    List.dropWhile_eq_nil_iff.2 fun c hc => decide_eq_true fun heq : c = ':' => hname (heq ▸ hc)
  rw [hcolon, serverPart]
  constructor
  · exact takeWhile_append_stop (by decide) _ _
  · rw [dropWhile_append_stop (by decide), hnone, List.nil_append, List.drop_one, List.tail_cons,
      dropWhile_append_stop (by decide), hslash, takeWhile_append_stop (by decide)]

/-- The server does not depend on what follows a slash, if some other character stands before it. -/
theorem map_server_eq_of_cleaned {s s' : String} {front tail tail' : List Char}
    (h : cleaned s = front ++ 'i' :: '/' :: tail) (h' : cleaned s' = front ++ 'i' :: '/' :: tail') :
    (ofText? s).map server = (ofText? s').map server := by
  rw [map_server_ofText?, map_server_ofText?, h, h']
  by_cases hcolon : ':' ∈ front
  · obtain ⟨name, after, rfl, hname⟩ := List.eq_append_cons_of_mem hcolon
    rw [(parts_of_colon hname tail).1, (parts_of_colon hname tail').1,
      (parts_of_colon hname tail).2, (parts_of_colon hname tail').2]
  · -- there is no protocol before the first slash, and so there is no address
    have hnone (tail : List Char) :
        Scheme.ofName? (String.ofList ((front ++ 'i' :: '/' :: tail).takeWhile (· ≠ ':'))) = none := by
      have hfront : ∀ c ∈ front, decide (c ≠ ':') = true :=
        fun c hc => decide_eq_true fun heq => hcolon (heq ▸ hc)
      refine ofName?_eq_none ?_
      rw [String.toList_ofList, List.takeWhile_append_of_pos hfront]
      exact List.mem_append_right _ (List.mem_cons_of_mem _ (List.mem_cons_self ..))
    rw [hnone, hnone]
    rfl

/-- **What follows the address of a client does not change the server.** -/
theorem map_server_append (base path path' : String) :
    (ofText? (base ++ "/api" ++ ("/" ++ path))).map server =
      (ofText? (base ++ "/api" ++ ("/" ++ path'))).map server := by
  obtain ⟨tail, htail⟩ := exists_cleaned_append base path
  obtain ⟨tail', htail'⟩ := exists_cleaned_append base path'
  exact map_server_eq_of_cleaned htail htail'

end Address

/-! ### Requests -/

/-- Whether something can be asked for is up to the key and the path. -/
theorem isSome_prepare? (c : Client) (w : Wish) :
    (c.prepare? w).isSome = (c.apiKey.all isSendable &&
      (Address.ofText? (c.base ++ "/api" ++ w.path)).isSome) := by
  rw [Client.prepare?]
  cases c.apiKey.all isSendable with
  | false => rfl
  | true => cases Address.ofText? (c.base ++ "/api" ++ w.path) <;> rfl

/-- A request does what is wished for, and brings what is to be brought with it. -/
theorem method_of_prepare? {c : Client} {w : Wish} {r : Request} (h : c.prepare? w = some r) :
    r.method = w.method ∧ r.body = w.body := by
  obtain ⟨_, -, hprepared⟩ := Option.bind_eq_some_iff.1 h
  obtain ⟨address, -, hr⟩ := Option.bind_eq_some_iff.1 hprepared
  obtain rfl := Option.some.inj hr
  exact ⟨rfl, rfl⟩

/-- The path of every call begins with a slash. -/
theorem exists_path_wish (call : Call) : ∃ path, (wish call).path = "/" ++ path := by
  cases call with
  | units page pageSize filters => exact ⟨"media", rfl⟩
  | sidecars id =>
    exact ⟨"media/" ++ id.text ++ "/subtitles", by simp [wish, ← String.append_assoc]⟩
  | profile id => exact ⟨"profiles/" ++ id.text, by simp [wish, ← String.append_assoc]⟩
  | setStatus id status =>
    exact ⟨"media/" ++ id.text ++ "/status", by simp [wish, ← String.append_assoc]⟩
  | blacklist entry => exact ⟨"blacklist", rfl⟩
  | deleteSidecar path => exact ⟨"subtitles", rfl⟩
  | startBatch scope ids => exact ⟨"batch", rfl⟩
  | startLanguageBatch scope items => exact ⟨"batch", rfl⟩

/-- A client can send every call, or none. -/
theorem isSome_request? (c : Client) (call call' : Call) :
    (c.request? call).isSome = (c.request? call').isSome := by
  obtain ⟨path, hpath⟩ := exists_path_wish call
  obtain ⟨path', hpath'⟩ := exists_path_wish call'
  rw [Client.request?, Client.request?, isSome_prepare?, isSome_prepare?, hpath, hpath',
    ← Option.isSome_map (f := Address.server), Address.map_server_append c.base path path',
    Option.isSome_map]

end SubtitleCoverage.Http
