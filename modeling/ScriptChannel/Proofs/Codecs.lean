import ScriptChannel.Proofs.Input.Refusing
import ScriptChannel.Proofs.Output.Refusing

/-!
# Codecs at the end of their input

A decoder and an encoder that have been told the end of their input are not used again, in whatever order
the two sides are called. The side that reads stays at its end until that is taken back: it hands out what
the decoder had left, and asks for nothing.
-/

namespace ScriptChannel
open Input

/-- No run of calls, on the side that reads or on the one that writes, is refused for the sake of a codec
that was told the end. Writing may begin with any encoder that was not told yet, as that of a new output
side was not. Once a read has told the decoder, or has answered that the stream ended, what follows is the
surplus and then, again and again, the end, whatever there may be below and whatever encoding is set, until
the end is cancelled or there is a reset. -/
theorem codecs_rest_at_end {σ δ : Type} [ByteSource σ] [RawWriter δ] :
    (∀ (e : Encoding) (s : Rewind × σ) (calls : List Decoding.Call),
      let r := askAll Decoding.Call.perform calls (Decoding.init e, s)
      askAll? Decoding.Call.perform? calls (Decoding.init e, s) = some r ∧
        ∀ n, let f := Decoding.fetch n r.2
          f.1 = .ended ∨ f.2.1.told = true →
          ∀ more, .cancelEnd ∉ more ∧ .seekReset ∉ more → ∀ t : Rewind × σ,
            let q := askAll Decoding.Call.perform more (f.2.1, t)
            q.2.2 = t ∧ f.2.1.surplus = q.1.flatMap Fetch.units ++ q.2.1.surplus ∧
              ∀ m, 0 < m →
                (q.2.1.surplus = [] → Decoding.fetch m q.2 = (.ended, q.2)) ∧
                (q.2.1.surplus ≠ [] → Decoding.fetch m q.2 =
                  (.got (q.2.1.surplus.take m), { q.2.1 with surplus := q.2.1.surplus.drop m },
                    q.2.2))) ∧
      ∀ o : Output, o.encoder.spent = false → ∀ (d : δ) (acts : List Output.Act),
        let r := askAll Output.Act.answer acts (o, d)
        askAll? Output.Act.answer? acts (o, d) = some r ∧ r.2.1.encoder.spent = false := by
  refine ⟨fun e s calls => ?_, fun o ho d acts => Output.Act.askAll?_answer acts ho⟩
  intro r
  obtain ⟨hgranted, hsound⟩ := Decoding.askAll?_perform e s calls
  refine ⟨hgranted, fun n => ?_⟩
  intro f hend more hmore t q
  have hfetch : Decoding.Granted (Decoding.fetch? n r.2) f := Decoding.fetch?_granted n hsound
  have hfinished : f.2.1.finished = true := hend.elim hfetch.noted hfetch.sound
  obtain ⟨hlast, hbelow, hbrings⟩ := Decoding.askAll_finished hmore hfinished t
  exact ⟨hbelow, hbrings, fun m hm =>
    ⟨fun hnone => Decoding.fetch_of_over (s := q.2.2) ⟨hlast, hnone⟩ hm q.2.2,
      fun hsome => Decoding.fetch_of_surplus hsome hm q.2.2⟩⟩

/-- A stream that ends within an escape sequence: the flush makes two characters, one of which is left over
when the encoding is changed. -/
theorem codecs_rest_at_end_escape :
    let e : Encoding := .charset .iso2022Jp
    let s : Rewind × Cutoff × Transport.Rehearsed :=
      (.init, .init 0, { Transport.Rehearsed.quiet with reads := [.units [0x61, 0x1B, 0x24]] })
    let calls : List Decoding.Call := [.setEncoding e, .read 1]
    let more : List Decoding.Call := [.setEncoding .utf8, .rearm, .read 3]
    let r := askAll Decoding.Call.perform calls (Decoding.init .utf8, s)
    let f := Decoding.fetch 1 r.2
    let q := askAll Decoding.Call.perform more (f.2.1, s)
    let acts : List Output.Act := [.op (.write (.text ['あ'])), .op (.setEncoding .utf8), .close, .close]
    let o := Output.init e .lf .full 16
    askAll? Decoding.Call.perform? calls (Decoding.init .utf8, s) = some r ∧
      f.1 = .got ['\uFFFD'] ∧ f.2.1.told = true ∧ f.2.1.surplus = ['$'] ∧
      q.1 = [.got ['$']] ∧ q.2.2.2.2.reads = s.2.2.reads ∧
      Decoding.fetch 5 q.2 = (.ended, q.2) ∧
      o.encoder.spent = false ∧ (askAll? Output.Act.answer? acts (o, s.2.2)).isSome = true := by
  intro e s calls more r f q acts o
  obtain ⟨hdecoding, hencoding⟩ :=
    codecs_rest_at_end (σ := Cutoff × Transport.Rehearsed) (δ := Transport.Rehearsed)
  obtain ⟨hgranted, hrest⟩ := hdecoding .utf8 s calls
  have htold : f.2.1.told = true := by decide +kernel
  have hmore : .cancelEnd ∉ more ∧ .seekReset ∉ more := by decide
  obtain ⟨-, -, hnext⟩ := hrest 1 (.inr htold) more hmore s
  have hended : Decoding.fetch 5 q.2 = (.ended, q.2) := (hnext 5 (by decide)).1 (by decide +kernel)
  have hnew : o.encoder.spent = false := by decide
  obtain ⟨hwritten, -⟩ := hencoding o hnew s.2.2 acts
  exact ⟨hgranted, by decide +kernel, htold, by decide +kernel, by decide +kernel, by decide +kernel,
    hended, hnew, Option.isSome_iff_exists.2 ⟨_, hwritten⟩⟩

end ScriptChannel
