import TwirpTodo.HttpServer.Setup

namespace TwirpTodo.HttpServer

/-- A config that passes `WithServerAddress`'s checks: a network other than
`udp`, `unixgram` and the empty one, and a non-empty address. -/
def ServerConfig.Checked (c : ServerConfig) : Prop :=
  c.network ∉ ["udp", "unixgram", ""] ∧ c.address ≠ ""

instance : DecidablePred ServerConfig.Checked := fun c =>
  inferInstanceAs (Decidable (c.network ∉ ["udp", "unixgram", ""] ∧ c.address ≠ ""))

theorem serverAddress_checked {network address : String} {c c' : ServerConfig}
    (accepted : serverAddress network address c = .ok c') : c'.Checked := by
  unfold serverAddress at accepted
  split_ifs at accepted with refused empty unnamed
  cases accepted
  simp_all [ServerConfig.Checked]

mutual

theorem ServerOption.apply_checked : ∀ (o : ServerOption) {c c' : ServerConfig},
    c.Checked → o.apply c = .ok c' → c'.Checked
  | .withServerAddress network address, c, _, _, accepted => @serverAddress_checked network address c _ accepted
  | .serverOptions options, _, _, checked, accepted => applyOptions_checked options checked accepted

theorem applyOptions_checked : ∀ (options : List ServerOption) {c c' : ServerConfig},
    c.Checked → applyOptions options c = .ok c' → c'.Checked
  | [], _, _, checked, accepted => by
    rw [applyOptions] at accepted
    cases accepted
    exact checked
  | o :: rest, c, _, checked, accepted => by
    rw [applyOptions] at accepted
    cases first : o.apply c with
    | error err =>
      rw [first] at accepted
      cases accepted
    | ok mid =>
      rw [first] at accepted
      exact applyOptions_checked rest (o.apply_checked checked first) accepted

end

/-- Whatever options `New` is given, nested to any depth, a server it returns
has passed `WithServerAddress`'s checks: the default `tcp` and `127.0.0.1:0`
pass them, and every option that sets the config checks what it sets. -/
theorem new_config_checked {reflection : TwirpServer} {options : List ServerOption} {s : Server}
    (created : new reflection options = .ok s) : s.config.Checked := by
  unfold new at created
  split at created
  · cases created
  · rename_i cfg applied
    cases created
    exact applyOptions_checked options (by decide) applied

theorem new_checks_configured_address :
    let reflection : TwirpServer := ⟨"reflection", "/twirp/reflection/", by decide⟩
    ∃ s, new reflection [withConfig ⟨"127.0.0.1:8080"⟩] = .ok s ∧ s.config.Checked := by
  intro reflection
  obtain ⟨s, created⟩ : ∃ s, new reflection [withConfig ⟨"127.0.0.1:8080"⟩] = .ok s := ⟨_, rfl⟩
  exact ⟨s, created, new_config_checked created⟩

/-- `New` checks the network against a list of three names only: every other
network, connectionless (`udp4`, `ip4`) or unknown, is accepted with any
non-empty address, and only `Run`'s `net.Listen` refuses it. -/
theorem new_accepts_unlisted_network (reflection : TwirpServer) {network address : String}
    (unlisted : network ∉ ["udp", "unixgram", ""]) (named : address ≠ "") :
    ∃ s, new reflection [.withServerAddress network address] = .ok s ∧ s.config = ⟨network, address⟩ := by
  simp only [List.mem_cons, List.mem_singleton, List.not_mem_nil, or_false, not_or] at unlisted
  simp [new, applyOptions, ServerOption.apply, serverAddress, unlisted, named, bind, Except.bind,
    Server.addMiddleware]

theorem new_accepts_udp4 :
    let reflection : TwirpServer := ⟨"reflection", "/twirp/reflection/", by decide⟩
    ∃ s, new reflection [.withServerAddress "udp4" "127.0.0.1:0"] = .ok s ∧
      s.config.network ∉ ["tcp", "tcp4", "tcp6", "unix", "unixpacket"] := by
  intro reflection
  obtain ⟨s, created, config⟩ :=
    @new_accepts_unlisted_network reflection "udp4" "127.0.0.1:0" (by decide) (by decide)
  exact ⟨s, created, by rw [config]; decide⟩

end TwirpTodo.HttpServer
