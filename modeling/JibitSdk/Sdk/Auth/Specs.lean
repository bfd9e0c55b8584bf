import JibitSdk.Sdk.Config

/-! # Token endpoint contracts: `jibit/auth/specs.py`. -/

namespace JibitSdk.Sdk

structure AuthSpec where
  service : ServiceName
  generatePath : String
  refreshPath : String
  apiKeyField : String
  secretKeyField : String
  accessResponseField : String
  refreshResponseField : String
  refreshTokenField : String
  refreshAccessTokenField : Option String := none
  scopesField : Option String := none
  expiresInField : Option String := none
  refreshExpiresInField : Option String := none
  documentedAccessTtlSeconds : Option ℕ := none
  documentedRefreshTtlSeconds : Option ℕ := none

/-- `AUTH_SPECS`; KYC has no documented token flow. -/
def authSpecs : ServiceName → Option AuthSpec
  | .paymentGateway => some
    { service := .paymentGateway
      generatePath := "/ppg/v3/tokens"
      refreshPath := "/ppg/v3/tokens/refresh"
      apiKeyField := "apiKey"
      secretKeyField := "secretKey"
      accessResponseField := "accessToken"
      refreshResponseField := "refreshToken"
      refreshTokenField := "refreshToken"
      documentedAccessTtlSeconds := some 86400
      documentedRefreshTtlSeconds := some 172800 }
  | .transfers => some
    { service := .transfers
      generatePath := "/trf/v2/tokens/generate"
      refreshPath := "/trf/v2/tokens/refresh"
      apiKeyField := "apiKey"
      secretKeyField := "secretKey"
      accessResponseField := "accessToken"
      refreshResponseField := "refreshToken"
      refreshTokenField := "refreshToken"
      refreshAccessTokenField := some "accessToken"
      documentedAccessTtlSeconds := some 86400
      documentedRefreshTtlSeconds := some 172800 }
  | .cobank => some
    { service := .cobank
      generatePath := "/cobank/v1/tokens/generate"
      refreshPath := "/cobank/v1/tokens/refresh"
      apiKeyField := "apiKey"
      secretKeyField := "secretKey"
      accessResponseField := "accessToken"
      refreshResponseField := "refreshToken"
      refreshTokenField := "refreshToken"
      refreshAccessTokenField := some "accessToken"
      scopesField := some "scopes" }
  | .identicator => some
    { service := .identicator
      generatePath := "/ide/v1/tokens/generate"
      refreshPath := "/ide/v1/tokens/refresh"
      apiKeyField := "apiKey"
      secretKeyField := "secretKey"
      accessResponseField := "accessToken"
      refreshResponseField := "refreshToken"
      refreshTokenField := "refreshToken"
      refreshAccessTokenField := some "accessToken"
      documentedAccessTtlSeconds := some 86400
      documentedRefreshTtlSeconds := some 172800 }
  | .kyc => none
  | .directDebit => some
    { service := .directDebit
      generatePath := "/directdebit/api/v1/auth/authenticate"
      refreshPath := "/directdebit/api/v1/auth/refresh-token"
      apiKeyField := "api_key"
      secretKeyField := "secret_key"
      accessResponseField := "access_token"
      refreshResponseField := "refresh_token"
      refreshTokenField := "refresh_token"
      refreshAccessTokenField := some "access_token" }
  | .sms => some
    { service := .sms
      generatePath := "/pulse/api/v1/auth/authenticate"
      refreshPath := "/pulse/api/v1/auth/refresh-token"
      apiKeyField := "api_key"
      secretKeyField := "secret_key"
      accessResponseField := "access_token"
      refreshResponseField := "refresh_token"
      refreshTokenField := "refresh_token"
      refreshAccessTokenField := some "access_token" }
  | .contracts => some
    { service := .contracts
      generatePath := "/mzahub/v1/auth/login"
      refreshPath := "/mzahub/v1/auth/refresh"
      apiKeyField := "apiKey"
      secretKeyField := "secretKey"
      accessResponseField := "accessToken"
      refreshResponseField := "refreshToken"
      refreshTokenField := "refreshToken"
      expiresInField := some "expiresIn"
      refreshExpiresInField := some "refreshTokenExpiresIn" }

end JibitSdk.Sdk
