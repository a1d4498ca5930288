/-
What the URL of a single text stands for.

Encoding is there to be undone.  A text under `{v}` comes back from its URL byte
by byte, so that no two texts share one.  Under `{+v}` triplets stand as they are,
and what comes back is what the text already stood for.  A literal is treated as
a text under `{+v}`, and it comes out as it went in just where there is nothing
left to encode.
-/
import RouteTemplate.Proofs.Percent.Decoding
import RouteTemplate.Proofs.Template.Url

namespace RouteTemplate
namespace Template

open Percent

def onlyText (s : String) : Params := [("v", .text s)]

theorem admissible_onlyText (s : String) : (onlyText s).Admissible := by
  intro e he
  rw [List.mem_singleton.1 he]
  show "v" ≠ "self"
  decide

/-- These two operators write a text alone, without lead or name. -/
theorem expand_onlyText {op : Operator} (hop : op = .simple ∨ op = .reserved) (s : String) :
    Expression.expand ⟨op, [⟨"v", "v", .none, none⟩], none⟩ (onlyText s) =
      .ok (op.charset.encode s.toList) := by
  have htext : Variable.expand op ⟨"v", "v", .none, none⟩ (.text s) =
      .ok (some (op.charset.encode s.toList)) := by
    rcases hop with rfl | rfl
    · rfl
    · rfl
  have hlead : op.lead = [] := by
    rcases hop with rfl | rfl
    · rfl
    · rfl
  have hvalue : Variable.value ⟨"v", "v", .none, none⟩ (onlyText s) = .text s := rfl
  rw [Expression.expand, List.mapM_cons, hvalue, htext]
  show Except.ok (op.lead ++ List.intercalate [op.separator] [op.charset.encode s.toList]) = _
  rw [hlead, List.intercalate_singleton, List.nil_append]

theorem url_simple_text (s : String) :
    url "{v}" (onlyText s) = .ok (String.ofList (Charset.unreserved.encode s.toList)) :=
  url_of_expression rfl (admissible_onlyText s) (expand_onlyText (Or.inl rfl) s)

theorem url_reserved_text (s : String) :
    url "{+v}" (onlyText s) = .ok (String.ofList (Charset.reserved.encode s.toList)) :=
  url_of_expression rfl (admissible_onlyText s) (expand_onlyText (Or.inr rfl) s)

theorem reserved_encode_eq_self_iff {s : List Char} :
    Charset.reserved.encode s = s ↔ Encoded s := by
  refine ⟨fun h => ?_, Charset.reserved_encode_eq_self⟩
  rw [← h]
  exact Charset.encoded_encode .reserved s

/-- A text comes back from its URL, under `{v}` as it was and under `{+v}` as what it stood
for.  A text without braces is a template that makes the same URL, and makes itself just
where it is encoded already. -/
theorem decode_url_text (s : String) :
    (∃ u, url "{v}" (onlyText s) = .ok u ∧ decode u.toList = utf8 s.toList) ∧
      (∀ s', url "{v}" (onlyText s') = url "{v}" (onlyText s) → s' = s) ∧
      (∃ u, url "{+v}" (onlyText s) = .ok u ∧ decode u.toList = decode s.toList) ∧
      ('{' ∉ s.toList → '}' ∉ s.toList →
        (∃ t, parse s = .ok t ∧ t.expressions = []) ∧
          ∀ q : Params, q.Admissible →
            url s q = url "{+v}" (onlyText s) ∧ (url s q = .ok s ↔ Encoded s.toList)) := by
  refine ⟨⟨_, url_simple_text s, ?_⟩, fun s' h => ?_, ⟨_, url_reserved_text s, ?_⟩,
    fun ho hc => ⟨?_, fun q hq => ?_⟩⟩
  · rw [String.toList_ofList]
    exact decode_encodeAll rfl s.toList
  · rw [url_simple_text, url_simple_text, Except.ok.injEq, String.ofList_inj] at h
    have hback := text?_unreserved_encode s'
    rw [h, text?_unreserved_encode] at hback
    exact (Option.some.inj hback).symm
  · rw [String.toList_ofList]
    exact decode_reserved_encode s.toList
  · have hparse := parse_of_braceFree ho hc
    rw [String.ofList_toList] at hparse
    refine ⟨_, hparse, ?_⟩
    show List.filterMap Part.expression? (if s.toList = [] then [] else [.literal s.toList]) = []
    split <;> rfl
  · have hurl : url s q = .ok (String.ofList (Charset.reserved.encode s.toList)) := by
      have hliteral := url_of_braceFree ho hc hq
      rwa [String.ofList_toList] at hliteral
    refine ⟨by rw [hurl, url_reserved_text], ?_⟩
    rw [hurl, Except.ok.injEq, ← reserved_encode_eq_self_iff, ← String.toList_inj,
      String.toList_ofList]

/-- Percent signs that start no triplet, one that stands before a triplet, and a triplet
behind another character. -/
theorem decode_url_text_percent :
    let s := "%4/%%41é%zz"
    ('{' ∉ s.toList ∧ '}' ∉ s.toList ∧ (onlyText "x").Admissible) ∧
      (∃ u, url "{v}" (onlyText s) = .ok u ∧ decode u.toList = utf8 s.toList) ∧
      (∃ u, url "{+v}" (onlyText s) = .ok u ∧ decode u.toList = decode s.toList) ∧
      (∃ t, parse s = .ok t ∧ t.expressions = []) ∧
      url s (onlyText "x") = url "{+v}" (onlyText s) ∧
      url s (onlyText "x") = .ok "%254/%25%41%C3%A9%25zz" ∧
      ¬Encoded s.toList := by
  intro s
  have ho : '{' ∉ s.toList := by decide
  have hc : '}' ∉ s.toList := by decide
  have hq : (onlyText "x").Admissible := admissible_onlyText "x"
  obtain ⟨hsimple, _, hreserved, hliteral⟩ := decode_url_text s
  obtain ⟨hparse, hall⟩ := hliteral ho hc
  have hurl : url s (onlyText "x") = .ok "%254/%25%41%C3%A9%25zz" :=
    Outcome.eq_ok_of_toOption (by decide +kernel)
  refine ⟨⟨ho, hc, hq⟩, hsimple, hreserved, hparse, (hall _ hq).1, hurl, fun hencoded => ?_⟩
  have hself := (hall _ hq).2.2 hencoded
  rw [hurl, Except.ok.injEq] at hself
  exact absurd hself (by decide)

end Template
end RouteTemplate
