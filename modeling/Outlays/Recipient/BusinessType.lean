import Outlays.Text.Sorted

/-!
# Business types

A registered business lists two-letter type codes and a code for its legal structure. Each known
code sets one flag, and flags roll up into categories, which are the names that transactions
carry too; so both sources can be put into one list.

## Main definitions

* `BusinessFlag`, `BusinessFlag.ofCode?` — the flags, and the flag that a code sets
* `BusinessFlag.ofRegistration` — the flags of a registration
* `BusinessFlag.categories` — the categories of some flags
-/

namespace Outlays

/-- What a business type code says about a business. -/
inductive BusinessFlag where
  | usFederalGovernment
  | usStateGovernment
  | usLocalGovernment
  | cityLocalGovernment
  | countyLocalGovernment
  | schoolDistrictLocalGovernment
  | transitAuthority
  | interstateEntity
  | usGovernmentEntity
  | indianTribeFederallyRecognized
  | tribalGovernment
  | foreignGovernment
  | internationalOrganization
  | foreignOwnedAndLocated
  | smallAgriculturalCooperative
  | limitedLiabilityCorporation
  | subchapterSCorporation
  | manufacturerOfGoods
  | forProfitOrganization
  | soleProprietorship
  | partnershipOrLimitedLiabilityPartnership
  | corporateEntityNotTaxExempt
  | corporateEntityTaxExempt
  | nonprofitOrganization
  | otherNotForProfitOrganization
  | communityDevelopmentCorporation
  | communityDevelopedCorporationOwnedFirm
  | laborSurplusAreaFirm
  | veteranOwnedBusiness
  | serviceDisabledVeteranOwnedBusiness
  | womanOwnedBusiness
  | womenOwnedSmallBusiness
  | economicallyDisadvantagedWomenOwnedSmallBusiness
  | jointVentureWomenOwnedSmallBusiness
  | jointVentureEconomicallyDisadvantagedWomenOwnedSmallBusiness
  | minorityOwnedBusiness
  | asianPacificAmericanOwnedBusiness
  | subcontinentAsianAmericanOwnedBusiness
  | blackAmericanOwnedBusiness
  | hispanicAmericanOwnedBusiness
  | nativeAmericanOwnedBusiness
  | alaskanNativeOwnedCorporation
  | nativeHawaiianOwnedBusiness
  | triballyOwnedBusiness
  | abilityOneProgram
  | selfCertifiedSmallDisadvantagedBusiness
  | c8aProgramParticipant
  | sba8aJointVenture
  | historicallyUnderutilizedBusinessZone
  | privateUniversityOrCollege
  | stateControlledInstitutionOfHigherLearning
  | educationalInstitution
  | landGrantCollege
  | historicallyBlackCollege
  | minorityInstitution
  | hispanicServicingInstitution
  | tribalCollege
  | domesticShelter
  | hospital
  | veterinaryHospital
  deriving DecidableEq, Repr

namespace BusinessFlag

/-- The flags, in their usual order, each with its name. -/
def table : List (BusinessFlag × String) := [
  (.usFederalGovernment, "UsFederalGovernment"),
  (.usStateGovernment, "UsStateGovernment"),
  (.usLocalGovernment, "UsLocalGovernment"),
  (.cityLocalGovernment, "CityLocalGovernment"),
  (.countyLocalGovernment, "CountyLocalGovernment"),
  (.schoolDistrictLocalGovernment, "SchoolDistrictLocalGovernment"),
  (.transitAuthority, "TransitAuthority"),
  (.interstateEntity, "InterstateEntity"),
  (.usGovernmentEntity, "UsGovernmentEntity"),
  (.indianTribeFederallyRecognized, "IndianTribeFederallyRecognized"),
  (.tribalGovernment, "TribalGovernment"),
  (.foreignGovernment, "ForeignGovernment"),
  (.internationalOrganization, "InternationalOrganization"),
  (.foreignOwnedAndLocated, "ForeignOwnedAndLocated"),
  (.smallAgriculturalCooperative, "SmallAgriculturalCooperative"),
  (.limitedLiabilityCorporation, "LimitedLiabilityCorporation"),
  (.subchapterSCorporation, "SubchapterSCorporation"),
  (.manufacturerOfGoods, "ManufacturerOfGoods"),
  (.forProfitOrganization, "ForProfitOrganization"),
  (.soleProprietorship, "SoleProprietorship"),
  (.partnershipOrLimitedLiabilityPartnership, "PartnershipOrLimitedLiabilityPartnership"),
  (.corporateEntityNotTaxExempt, "CorporateEntityNotTaxExempt"),
  (.corporateEntityTaxExempt, "CorporateEntityTaxExempt"),
  (.nonprofitOrganization, "NonprofitOrganization"),
  (.otherNotForProfitOrganization, "OtherNotForProfitOrganization"),
  (.communityDevelopmentCorporation, "CommunityDevelopmentCorporation"),
  (.communityDevelopedCorporationOwnedFirm, "CommunityDevelopedCorporationOwnedFirm"),
  (.laborSurplusAreaFirm, "LaborSurplusAreaFirm"),
  (.veteranOwnedBusiness, "VeteranOwnedBusiness"),
  (.serviceDisabledVeteranOwnedBusiness, "ServiceDisabledVeteranOwnedBusiness"),
  (.womanOwnedBusiness, "WomanOwnedBusiness"),
  (.womenOwnedSmallBusiness, "WomenOwnedSmallBusiness"),
  (.economicallyDisadvantagedWomenOwnedSmallBusiness,
    "EconomicallyDisadvantagedWomenOwnedSmallBusiness"),
  (.jointVentureWomenOwnedSmallBusiness, "JointVentureWomenOwnedSmallBusiness"),
  (.jointVentureEconomicallyDisadvantagedWomenOwnedSmallBusiness,
    "JointVentureEconomicallyDisadvantagedWomenOwnedSmallBusiness"),
  (.minorityOwnedBusiness, "MinorityOwnedBusiness"),
  (.asianPacificAmericanOwnedBusiness, "AsianPacificAmericanOwnedBusiness"),
  (.subcontinentAsianAmericanOwnedBusiness, "SubcontinentAsianAmericanOwnedBusiness"),
  (.blackAmericanOwnedBusiness, "BlackAmericanOwnedBusiness"),
  (.hispanicAmericanOwnedBusiness, "HispanicAmericanOwnedBusiness"),
  (.nativeAmericanOwnedBusiness, "NativeAmericanOwnedBusiness"),
  (.alaskanNativeOwnedCorporation, "AlaskanNativeOwnedCorporation"),
  (.nativeHawaiianOwnedBusiness, "NativeHawaiianOwnedBusiness"),
  (.triballyOwnedBusiness, "TriballyOwnedBusiness"),
  (.abilityOneProgram, "AbilityOneProgram"),
  (.selfCertifiedSmallDisadvantagedBusiness, "SelfCertifiedSmallDisadvantagedBusiness"),
  (.c8aProgramParticipant, "C8aProgramParticipant"),
  (.sba8aJointVenture, "Sba8aJointVenture"),
  (.historicallyUnderutilizedBusinessZone, "HistoricallyUnderutilizedBusinessZone"),
  (.privateUniversityOrCollege, "PrivateUniversityOrCollege"),
  (.stateControlledInstitutionOfHigherLearning, "StateControlledInstitutionOfHigherLearning"),
  (.educationalInstitution, "EducationalInstitution"),
  (.landGrantCollege, "LandGrantCollege"),
  (.historicallyBlackCollege, "HistoricallyBlackCollege"),
  (.minorityInstitution, "MinorityInstitution"),
  (.hispanicServicingInstitution, "HispanicServicingInstitution"),
  (.tribalCollege, "TribalCollege"),
  (.domesticShelter, "DomesticShelter"),
  (.hospital, "Hospital"),
  (.veterinaryHospital, "VeterinaryHospital")]

/-- The flags, in their usual order. -/
def all : List BusinessFlag := table.map (·.1)

/-- The name of a flag. -/
def name (f : BusinessFlag) : String := ((table.find? (·.1 == f)).map (·.2)).getD ""

/-- The registration codes with the flags that they set. -/
def codes : List (String × BusinessFlag) := [
  ("2R", .usFederalGovernment),
  ("2F", .usStateGovernment),
  ("12", .usLocalGovernment),
  ("C8", .cityLocalGovernment),
  ("C7", .countyLocalGovernment),
  ("H6", .schoolDistrictLocalGovernment),
  ("TW", .transitAuthority),
  ("2G", .interstateEntity),
  ("2A", .usGovernmentEntity),
  ("XY", .indianTribeFederallyRecognized),
  ("3I", .tribalGovernment),
  ("CY", .foreignGovernment),
  ("X6", .internationalOrganization),
  ("20", .foreignOwnedAndLocated),
  ("1D", .smallAgriculturalCooperative),
  ("LJ", .limitedLiabilityCorporation),
  ("XS", .subchapterSCorporation),
  ("MF", .manufacturerOfGoods),
  ("2X", .forProfitOrganization),
  ("2J", .soleProprietorship),
  ("2K", .partnershipOrLimitedLiabilityPartnership),
  ("2L", .corporateEntityNotTaxExempt),
  ("8H", .corporateEntityTaxExempt),
  ("A8", .nonprofitOrganization),
  ("2U", .otherNotForProfitOrganization),
  ("H2", .communityDevelopmentCorporation),
  ("HK", .communityDevelopedCorporationOwnedFirm),
  ("A3", .laborSurplusAreaFirm),
  ("A5", .veteranOwnedBusiness),
  ("QF", .serviceDisabledVeteranOwnedBusiness),
  ("A2", .womanOwnedBusiness),
  ("8W", .womenOwnedSmallBusiness),
  ("8E", .economicallyDisadvantagedWomenOwnedSmallBusiness),
  ("8C", .jointVentureWomenOwnedSmallBusiness),
  ("8D", .jointVentureEconomicallyDisadvantagedWomenOwnedSmallBusiness),
  ("23", .minorityOwnedBusiness),
  ("FR", .asianPacificAmericanOwnedBusiness),
  ("QZ", .subcontinentAsianAmericanOwnedBusiness),
  ("OY", .blackAmericanOwnedBusiness),
  ("PI", .hispanicAmericanOwnedBusiness),
  ("NB", .nativeAmericanOwnedBusiness),
  ("05", .alaskanNativeOwnedCorporation),
  ("8U", .nativeHawaiianOwnedBusiness),
  ("1B", .triballyOwnedBusiness),
  ("A7", .abilityOneProgram),
  ("27", .selfCertifiedSmallDisadvantagedBusiness),
  ("A6", .c8aProgramParticipant),
  ("JT", .sba8aJointVenture),
  ("XX", .historicallyUnderutilizedBusinessZone),
  ("1R", .privateUniversityOrCollege),
  ("ZW", .stateControlledInstitutionOfHigherLearning),
  ("M8", .educationalInstitution),
  ("G6", .landGrantCollege),
  ("G7", .landGrantCollege),
  ("G8", .landGrantCollege),
  ("HB", .historicallyBlackCollege),
  ("1A", .minorityInstitution),
  ("1H", .hispanicServicingInstitution),
  ("YG", .tribalCollege),
  ("6D", .domesticShelter),
  ("80", .hospital),
  ("FY", .veterinaryHospital)]

/-- The flag that a registration code sets, if the code is known. -/
def ofCode? (code : String) : Option BusinessFlag := (codes.find? (·.1 == code)).map (·.2)

/-- The flags that the codes of a registration set, its legal structure included; codes that are
not known set none. -/
def ofRegistration (typeCodes : List String) (structureCode : Option String) :
    List BusinessFlag :=
  let set := (typeCodes ++ structureCode.toList).filterMap ofCode?
  all.filter set.contains

/-- The categories, each with the flags any one of which puts a business into it. -/
def rules : List (String × List BusinessFlag) := [
  ("category_business", [
    .smallAgriculturalCooperative, .limitedLiabilityCorporation, .subchapterSCorporation,
    .manufacturerOfGoods, .forProfitOrganization, .soleProprietorship,
    .partnershipOrLimitedLiabilityPartnership, .corporateEntityNotTaxExempt,
    .corporateEntityTaxExempt]),
  ("corporate_entity_tax_exempt", [.corporateEntityTaxExempt]),
  ("corporate_entity_not_tax_exempt", [.corporateEntityNotTaxExempt]),
  ("partnership_or_limited_liability_partnership", [.partnershipOrLimitedLiabilityPartnership]),
  ("sole_proprietorship", [.soleProprietorship]),
  ("manufacturer_of_goods", [.manufacturerOfGoods]),
  ("subchapter_s_corporation", [.subchapterSCorporation]),
  ("limited_liability_corporation", [.limitedLiabilityCorporation]),
  ("minority_owned_business", [
    .minorityOwnedBusiness, .asianPacificAmericanOwnedBusiness,
    .subcontinentAsianAmericanOwnedBusiness, .blackAmericanOwnedBusiness,
    .hispanicAmericanOwnedBusiness, .nativeAmericanOwnedBusiness, .alaskanNativeOwnedCorporation,
    .nativeHawaiianOwnedBusiness, .triballyOwnedBusiness]),
  ("alaskan_native_corporation_owned_firm", [.alaskanNativeOwnedCorporation]),
  ("american_indian_owned_business", [.nativeAmericanOwnedBusiness]),
  ("asian_pacific_american_owned_business", [.asianPacificAmericanOwnedBusiness]),
  ("black_american_owned_business", [.blackAmericanOwnedBusiness]),
  ("hispanic_american_owned_business", [.hispanicAmericanOwnedBusiness]),
  ("native_hawaiian_organization_owned_firm", [.nativeHawaiianOwnedBusiness]),
  ("subcontinent_asian_indian_american_owned_business", [
    .subcontinentAsianAmericanOwnedBusiness]),
  ("tribally_owned_firm", [.triballyOwnedBusiness]),
  ("woman_owned_business", [
    .womanOwnedBusiness, .womenOwnedSmallBusiness,
    .economicallyDisadvantagedWomenOwnedSmallBusiness, .jointVentureWomenOwnedSmallBusiness,
    .jointVentureEconomicallyDisadvantagedWomenOwnedSmallBusiness]),
  ("women_owned_small_business", [.womenOwnedSmallBusiness]),
  ("economically_disadvantaged_women_owned_small_business", [
    .economicallyDisadvantagedWomenOwnedSmallBusiness]),
  ("joint_venture_women_owned_small_business", [.jointVentureWomenOwnedSmallBusiness]),
  ("joint_venture_economically_disadvantaged_women_owned_small_business", [
    .jointVentureEconomicallyDisadvantagedWomenOwnedSmallBusiness]),
  ("veteran_owned_business", [.veteranOwnedBusiness, .serviceDisabledVeteranOwnedBusiness]),
  ("service_disabled_veteran_owned_business", [.serviceDisabledVeteranOwnedBusiness]),
  ("special_designations", [
    .abilityOneProgram, .c8aProgramParticipant, .sba8aJointVenture,
    .historicallyUnderutilizedBusinessZone, .laborSurplusAreaFirm,
    .selfCertifiedSmallDisadvantagedBusiness, .smallAgriculturalCooperative,
    .communityDevelopedCorporationOwnedFirm, .foreignOwnedAndLocated, .foreignGovernment,
    .internationalOrganization, .domesticShelter, .hospital, .veterinaryHospital]),
  ("8a_program_participant", [.c8aProgramParticipant]),
  ("ability_one_program", [.abilityOneProgram]),
  ("historically_underutilized_business_firm", [.historicallyUnderutilizedBusinessZone]),
  ("labor_surplus_area_firm", [.laborSurplusAreaFirm]),
  ("sba_certified_8a_joint_venture", [.sba8aJointVenture]),
  ("self_certified_small_disadvanted_business", [.selfCertifiedSmallDisadvantagedBusiness]),
  ("small_agricultural_cooperative", [.smallAgriculturalCooperative]),
  ("community_developed_corporation_owned_firm", [.communityDevelopedCorporationOwnedFirm]),
  ("foreign_owned", [.foreignOwnedAndLocated]),
  ("foreign_government", [.foreignGovernment]),
  ("international_organization", [.internationalOrganization]),
  ("domestic_shelter", [.domesticShelter]),
  ("hospital", [.hospital]),
  ("veterinary_hospital", [.veterinaryHospital]),
  ("nonprofit", [
    .nonprofitOrganization, .otherNotForProfitOrganization, .communityDevelopmentCorporation]),
  ("community_development_corporations", [.communityDevelopmentCorporation]),
  ("higher_education", [
    .privateUniversityOrCollege, .stateControlledInstitutionOfHigherLearning,
    .educationalInstitution, .landGrantCollege, .historicallyBlackCollege, .minorityInstitution,
    .hispanicServicingInstitution, .tribalCollege]),
  ("public_institution_of_higher_education", [.stateControlledInstitutionOfHigherLearning]),
  ("private_institution_of_higher_education", [.privateUniversityOrCollege]),
  ("minority_serving_institution_of_higher_education", [
    .historicallyBlackCollege, .minorityInstitution, .hispanicServicingInstitution,
    .tribalCollege]),
  ("government", [
    .usFederalGovernment, .usStateGovernment, .usLocalGovernment, .cityLocalGovernment,
    .countyLocalGovernment, .schoolDistrictLocalGovernment, .transitAuthority, .interstateEntity,
    .usGovernmentEntity, .indianTribeFederallyRecognized, .tribalGovernment]),
  ("national_government", [.usFederalGovernment, .usGovernmentEntity]),
  ("regional_and_state_government", [.usStateGovernment]),
  ("interstate_entity", [.interstateEntity]),
  ("local_government", [
    .usLocalGovernment, .cityLocalGovernment, .countyLocalGovernment,
    .schoolDistrictLocalGovernment]),
  ("authorities_and_commissions", [.transitAuthority]),
  ("indian_native_american_tribal_government", [
    .indianTribeFederallyRecognized, .tribalGovernment])]

/-- The categories of a business with these flags, in increasing order. -/
def categories (flags : List BusinessFlag) : List String :=
  Text.sortedSet ((rules.filter fun rule => rule.2.any flags.contains).map (·.1))

end BusinessFlag

end Outlays
